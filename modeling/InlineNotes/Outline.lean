import InlineNotes.Segment

/-!
# Outlines

Scanning a document finds its inline footnotes. The result is an outline: plain
pieces and footnote bodies in the order of the document, and the mode in which
the scan stopped. `[^` opens a footnote, the first closing bracket that no
bracket of the body opened closes it, and brackets inside references do not
count. A footnote that is still open at the end is no footnote: `Outline.tail`
gives it back as it stood.

A scan resumes where it stopped. Opener and brackets are looked for in one
literal at a time, so `[` at the end of one literal and `^` at the start of the
next open nothing.
-/
namespace InlineNotes

inductive Item
  | plain (piece : Segment)
  | note (body : List Segment)
  deriving DecidableEq

/-- Inside a footnote the scan keeps the body so far, and how many of its
opening brackets are still open. -/
inductive Mode
  | outside
  | inside (body : List Segment) (depth : Nat)
  deriving DecidableEq

structure Outline where
  items : List Item
  mode : Mode
  deriving DecidableEq

/-- Cuts a text at its first `[^`: what stands before it, what follows it. -/
def cutAtOpener? : Text → Option (Text × Text)
  | [] => none
  | '[' :: '^' :: r => some ([], r)
  | c :: r => (cutAtOpener? r).map fun (before, after) => (c :: before, after)

inductive Closing
  | closed (before after : Text)
  | unclosed (depth : Nat)
  deriving DecidableEq

namespace Closing

def cons (c : Char) : Closing → Closing
  | closed before after => closed (c :: before) after
  | unclosed depth => unclosed depth

/-- Looks for the bracket that closes a footnote, from `depth` open brackets. -/
def find : Nat → Text → Closing
  | depth, [] => unclosed depth
  | depth, '[' :: r => (find (depth + 1) r).cons '['
  | 0, ']' :: r => closed [] r
  | depth + 1, ']' :: r => (find depth r).cons ']'
  | depth, c :: r => (find depth r).cons c

end Closing

theorem eq_append_of_cutAtOpener? {t before after : Text}
    (h : cutAtOpener? t = some (before, after)) : t = before ++ Label.opener ++ after := by
  fun_induction cutAtOpener? t generalizing before with
  | case1 => cases h
  | case2 r => cases h; simp [Label.opener]
  | case3 c r _ ih =>
    obtain ⟨⟨b, a⟩, hb, heq⟩ := Option.map_eq_some_iff.mp h
    cases heq
    simpa using ih hb

theorem Closing.cons_eq_closed {c : Char} {found : Closing} {before after : Text} :
    found.cons c = closed before after ↔ ∃ b, before = c :: b ∧ found = closed b after := by
  cases found with
  | closed b a =>
    simp only [cons, closed.injEq]
    exact ⟨fun ⟨h, ha⟩ => ⟨b, h.symm, rfl, ha⟩, fun ⟨x, h, hx, ha⟩ => ⟨by rw [h, hx], ha⟩⟩
  | unclosed => simp [cons]

theorem Closing.eq_append_of_find {depth : Nat} {t before after : Text}
    (h : find depth t = closed before after) : t = before ++ ']' :: after := by
  fun_induction find depth t generalizing before with
  | case1 => cases h
  | case2 _ _ ih => obtain ⟨b, rfl, hb⟩ := cons_eq_closed.mp h; simpa using ih hb
  | case3 => cases h; rfl
  | case4 _ _ ih => obtain ⟨b, rfl, hb⟩ := cons_eq_closed.mp h; simpa using ih hb
  | case5 _ _ _ _ _ _ ih => obtain ⟨b, rfl, hb⟩ := cons_eq_closed.mp h; simpa using ih hb

/-- Scans one literal. -/
def scanText : Mode → Text → Outline
  | mode, [] => ⟨[], mode⟩
  | .outside, c :: r =>
    match h : cutAtOpener? (c :: r) with
    | none => ⟨[.plain (.literal (c :: r))], .outside⟩
    | some (before, after) =>
      let rest := scanText (.inside [] 0) after
      ⟨(Segment.ofText before).map .plain ++ rest.items, rest.mode⟩
  | .inside body depth, c :: r =>
    match h : Closing.find depth (c :: r) with
    | .unclosed depth => ⟨[], .inside (body ++ [.literal (c :: r)]) depth⟩
    | .closed before after =>
      let rest := scanText .outside after
      ⟨.note (body ++ Segment.ofText before) :: rest.items, rest.mode⟩
  termination_by _ t => t.length
  decreasing_by
    · rw [eq_append_of_cutAtOpener? h]; simp [Label.opener]; omega
    · rw [Closing.eq_append_of_find h]; simp; omega

@[simp] theorem scanText_nil (mode : Mode) : scanText mode [] = ⟨[], mode⟩ := by
  simp [scanText]

theorem scanText_of_no_opener {t : Text} (h : cutAtOpener? t = none) :
    scanText .outside t = ⟨(Segment.ofText t).map .plain, .outside⟩ := by
  cases t with
  | nil => simp [Segment.ofText]
  | cons c r =>
    rw [scanText]
    split
    · rfl
    · next h' => rw [h] at h'; cases h'

theorem scanText_of_opener {t before after : Text} (h : cutAtOpener? t = some (before, after)) :
    scanText .outside t =
      ⟨(Segment.ofText before).map .plain ++ (scanText (.inside [] 0) after).items,
        (scanText (.inside [] 0) after).mode⟩ := by
  cases t with
  | nil => cases h
  | cons c r =>
    rw [scanText]
    split
    · next h' => rw [h] at h'; cases h'
    · next h' => rw [h] at h'; cases h'; rfl

theorem scanText_of_unclosed {t : Text} {body : List Segment} {depth left : Nat}
    (h : Closing.find depth t = .unclosed left) :
    scanText (.inside body depth) t = ⟨[], .inside (body ++ Segment.ofText t) left⟩ := by
  cases t with
  | nil => cases h; simp [Segment.ofText]
  | cons c r =>
    rw [scanText]
    split
    · next h' => rw [h] at h'; cases h'; rfl
    · next h' => rw [h] at h'; cases h'

theorem scanText_of_closed {t before after : Text} {body : List Segment} {depth : Nat}
    (h : Closing.find depth t = .closed before after) :
    scanText (.inside body depth) t =
      ⟨.note (body ++ Segment.ofText before) :: (scanText .outside after).items,
        (scanText .outside after).mode⟩ := by
  cases t with
  | nil => cases h
  | cons c r =>
    rw [scanText]
    split
    · next h' => rw [h] at h'; cases h'
    · next h' => rw [h] at h'; cases h'; rfl

def scan : Mode → List Segment → Outline
  | mode, [] => ⟨[], mode⟩
  | mode, .literal t :: rest =>
    let first := scanText mode t
    let others := scan first.mode rest
    ⟨first.items ++ others.items, others.mode⟩
  | .outside, .reference ref :: rest =>
    let others := scan .outside rest
    ⟨.plain (.reference ref) :: others.items, others.mode⟩
  | .inside body depth, .reference ref :: rest =>
    scan (.inside (body ++ [.reference ref]) depth) rest

/-- A scan of two lists is a scan of the first, resumed on the second. -/
theorem scan_append (mode : Mode) (xs ys : List Segment) :
    scan mode (xs ++ ys) =
      ⟨(scan mode xs).items ++ (scan (scan mode xs).mode ys).items,
        (scan (scan mode xs).mode ys).mode⟩ := by
  induction xs generalizing mode with
  | nil => simp [scan]
  | cons x xs ih =>
    cases x with
    | literal t => simp [scan, ih]
    | reference ref => cases mode <;> simp [scan, ih]

namespace Outline

def ofSegments (segments : List Segment) : Outline := scan .outside segments

/-- The footnote that never closes, from its opener on. -/
def tail (o : Outline) : List Segment :=
  match o.mode with
  | .outside => []
  | .inside body _ => .literal Label.opener :: body

end Outline

end InlineNotes
