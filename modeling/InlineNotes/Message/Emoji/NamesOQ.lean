/-!
# Names of emoji: o to q

The characters that stand for a name. Some are several code points long.
-/
namespace InlineNotes.Message.Emoji

set_option maxRecDepth 8000 in
def namesOQ : List (String × String) := [
    ("o", "⭕"), ("o2", "🅾"), ("o_button_(blood_type)", "🅾"), ("ocean", "🌊"), ("octopus", "🐙"),
    ("oden", "🍢"), ("office", "🏢"), ("office_building", "🏢"), ("ogre", "👹"),
    ("oil_drum", "🛢"), ("ok", "🆗"), ("ok_button", "🆗"), ("ok_hand", "👌"),
    ("ok_hand_dark_skin_tone", "👌🏿"), ("ok_hand_light_skin_tone", "👌🏻"),
    ("ok_hand_medium-dark_skin_tone", "👌🏾"), ("ok_hand_medium-light_skin_tone", "👌🏼"),
    ("ok_hand_medium_skin_tone", "👌🏽"), ("ok_woman", "🙆"), ("old_key", "🗝"), ("old_man", "👴"),
    ("old_man_dark_skin_tone", "👴🏿"), ("old_man_light_skin_tone", "👴🏻"),
    ("old_man_medium-dark_skin_tone", "👴🏾"), ("old_man_medium-light_skin_tone", "👴🏼"),
    ("old_man_medium_skin_tone", "👴🏽"), ("old_woman", "👵"),
    ("old_woman_dark_skin_tone", "👵🏿"), ("old_woman_light_skin_tone", "👵🏻"),
    ("old_woman_medium-dark_skin_tone", "👵🏾"), ("old_woman_medium-light_skin_tone", "👵🏼"),
    ("old_woman_medium_skin_tone", "👵🏽"), ("older_adult", "🧓"),
    ("older_adult_dark_skin_tone", "🧓🏿"), ("older_adult_light_skin_tone", "🧓🏻"),
    ("older_adult_medium-dark_skin_tone", "🧓🏾"), ("older_adult_medium-light_skin_tone", "🧓🏼"),
    ("older_adult_medium_skin_tone", "🧓🏽"), ("older_man", "👴"), ("older_woman", "👵"),
    ("om", "🕉"), ("om_symbol", "🕉"), ("oman", "🇴🇲"), ("on", "🔛"), ("on!_arrow", "🔛"),
    ("oncoming_automobile", "🚘"), ("oncoming_bus", "🚍"), ("oncoming_fist", "👊"),
    ("oncoming_fist_dark_skin_tone", "👊🏿"), ("oncoming_fist_light_skin_tone", "👊🏻"),
    ("oncoming_fist_medium-dark_skin_tone", "👊🏾"),
    ("oncoming_fist_medium-light_skin_tone", "👊🏼"), ("oncoming_fist_medium_skin_tone", "👊🏽"),
    ("oncoming_police_car", "🚔"), ("oncoming_taxi", "🚖"), ("one", "1️⃣"),
    ("one-piece_swimsuit", "🩱"), ("one-thirty", "🕜"), ("one_o’clock", "🕐"), ("onion", "🧅"),
    ("open_book", "📖"), ("open_file_folder", "📂"), ("open_hands", "👐"),
    ("open_hands_dark_skin_tone", "👐🏿"), ("open_hands_light_skin_tone", "👐🏻"),
    ("open_hands_medium-dark_skin_tone", "👐🏾"), ("open_hands_medium-light_skin_tone", "👐🏼"),
    ("open_hands_medium_skin_tone", "👐🏽"), ("open_mailbox_with_lowered_flag", "📭"),
    ("open_mailbox_with_raised_flag", "📬"), ("open_mouth", "😮"), ("ophiuchus", "⛎"),
    ("optical_disk", "💿"), ("orange_book", "📙"), ("orange_circle", "🟠"),
    ("orange_heart", "🧡"), ("orange_square", "🟧"), ("orangutan", "🦧"),
    ("orthodox_cross", "☦"), ("otter", "🦦"), ("outbox_tray", "📤"), ("owl", "🦉"), ("ox", "🐂"),
    ("oyster", "🦪"), ("p_button", "🅿"), ("package", "📦"), ("page_facing_up", "📄"),
    ("page_with_curl", "📃"), ("pager", "📟"), ("paintbrush", "🖌"), ("pakistan", "🇵🇰"),
    ("palau", "🇵🇼"), ("palestinian_territories", "🇵🇸"), ("palm_tree", "🌴"),
    ("palms_up_together", "🤲"), ("palms_up_together_dark_skin_tone", "🤲🏿"),
    ("palms_up_together_light_skin_tone", "🤲🏻"),
    ("palms_up_together_medium-dark_skin_tone", "🤲🏾"),
    ("palms_up_together_medium-light_skin_tone", "🤲🏼"),
    ("palms_up_together_medium_skin_tone", "🤲🏽"), ("panama", "🇵🇦"), ("pancakes", "🥞"),
    ("panda_face", "🐼"), ("paperclip", "📎"), ("papua_new_guinea", "🇵🇬"), ("paraguay", "🇵🇾"),
    ("parking", "🅿"), ("parrot", "🦜"), ("part_alternation_mark", "〽"), ("partly_sunny", "⛅"),
    ("party_popper", "🎉"), ("partying_face", "🥳"), ("passenger_ship", "🛳"),
    ("passport_control", "🛂"), ("pause_button", "⏸"), ("paw_prints", "🐾"),
    ("peace_symbol", "☮"), ("peach", "🍑"), ("peacock", "🦚"), ("peanuts", "🥜"), ("pear", "🍐"),
    ("pen", "🖊"), ("pencil", "📝"), ("pencil2", "✏"), ("penguin", "🐧"), ("pensive", "😔"),
    ("pensive_face", "😔"), ("people_holding_hands", "🧑‍🤝‍🧑"), ("people_with_bunny_ears", "👯"),
    ("people_wrestling", "🤼"), ("performing_arts", "🎭"), ("persevere", "😣"),
    ("persevering_face", "😣"), ("person_biking", "🚴"), ("person_biking_dark_skin_tone", "🚴🏿"),
    ("person_biking_light_skin_tone", "🚴🏻"), ("person_biking_medium-dark_skin_tone", "🚴🏾"),
    ("person_biking_medium-light_skin_tone", "🚴🏼"), ("person_biking_medium_skin_tone", "🚴🏽"),
    ("person_bouncing_ball", "⛹"), ("person_bouncing_ball_dark_skin_tone", "⛹🏿"),
    ("person_bouncing_ball_light_skin_tone", "⛹🏻"),
    ("person_bouncing_ball_medium-dark_skin_tone", "⛹🏾"),
    ("person_bouncing_ball_medium-light_skin_tone", "⛹🏼"),
    ("person_bouncing_ball_medium_skin_tone", "⛹🏽"), ("person_bowing", "🙇"),
    ("person_bowing_dark_skin_tone", "🙇🏿"), ("person_bowing_light_skin_tone", "🙇🏻"),
    ("person_bowing_medium-dark_skin_tone", "🙇🏾"),
    ("person_bowing_medium-light_skin_tone", "🙇🏼"), ("person_bowing_medium_skin_tone", "🙇🏽"),
    ("person_cartwheeling", "🤸"), ("person_cartwheeling_dark_skin_tone", "🤸🏿"),
    ("person_cartwheeling_light_skin_tone", "🤸🏻"),
    ("person_cartwheeling_medium-dark_skin_tone", "🤸🏾"),
    ("person_cartwheeling_medium-light_skin_tone", "🤸🏼"),
    ("person_cartwheeling_medium_skin_tone", "🤸🏽"), ("person_climbing", "🧗"),
    ("person_climbing_dark_skin_tone", "🧗🏿"), ("person_climbing_light_skin_tone", "🧗🏻"),
    ("person_climbing_medium-dark_skin_tone", "🧗🏾"),
    ("person_climbing_medium-light_skin_tone", "🧗🏼"),
    ("person_climbing_medium_skin_tone", "🧗🏽"), ("person_facepalming", "🤦"),
    ("person_facepalming_dark_skin_tone", "🤦🏿"), ("person_facepalming_light_skin_tone", "🤦🏻"),
    ("person_facepalming_medium-dark_skin_tone", "🤦🏾"),
    ("person_facepalming_medium-light_skin_tone", "🤦🏼"),
    ("person_facepalming_medium_skin_tone", "🤦🏽"), ("person_fencing", "🤺"),
    ("person_frowning", "🙍"), ("person_frowning_dark_skin_tone", "🙍🏿"),
    ("person_frowning_light_skin_tone", "🙍🏻"),
    ("person_frowning_medium-dark_skin_tone", "🙍🏾"),
    ("person_frowning_medium-light_skin_tone", "🙍🏼"),
    ("person_frowning_medium_skin_tone", "🙍🏽"), ("person_gesturing_no", "🙅"),
    ("person_gesturing_no_dark_skin_tone", "🙅🏿"),
    ("person_gesturing_no_light_skin_tone", "🙅🏻"),
    ("person_gesturing_no_medium-dark_skin_tone", "🙅🏾"),
    ("person_gesturing_no_medium-light_skin_tone", "🙅🏼"),
    ("person_gesturing_no_medium_skin_tone", "🙅🏽"), ("person_gesturing_ok", "🙆"),
    ("person_gesturing_ok_dark_skin_tone", "🙆🏿"),
    ("person_gesturing_ok_light_skin_tone", "🙆🏻"),
    ("person_gesturing_ok_medium-dark_skin_tone", "🙆🏾"),
    ("person_gesturing_ok_medium-light_skin_tone", "🙆🏼"),
    ("person_gesturing_ok_medium_skin_tone", "🙆🏽"), ("person_getting_haircut", "💇"),
    ("person_getting_haircut_dark_skin_tone", "💇🏿"),
    ("person_getting_haircut_light_skin_tone", "💇🏻"),
    ("person_getting_haircut_medium-dark_skin_tone", "💇🏾"),
    ("person_getting_haircut_medium-light_skin_tone", "💇🏼"),
    ("person_getting_haircut_medium_skin_tone", "💇🏽"), ("person_getting_massage", "💆"),
    ("person_getting_massage_dark_skin_tone", "💆🏿"),
    ("person_getting_massage_light_skin_tone", "💆🏻"),
    ("person_getting_massage_medium-dark_skin_tone", "💆🏾"),
    ("person_getting_massage_medium-light_skin_tone", "💆🏼"),
    ("person_getting_massage_medium_skin_tone", "💆🏽"), ("person_golfing", "🏌"),
    ("person_golfing_dark_skin_tone", "🏌🏿"), ("person_golfing_light_skin_tone", "🏌🏻"),
    ("person_golfing_medium-dark_skin_tone", "🏌🏾"),
    ("person_golfing_medium-light_skin_tone", "🏌🏼"),
    ("person_golfing_medium_skin_tone", "🏌🏽"), ("person_in_bed", "🛌"),
    ("person_in_bed_dark_skin_tone", "🛌🏿"), ("person_in_bed_light_skin_tone", "🛌🏻"),
    ("person_in_bed_medium-dark_skin_tone", "🛌🏾"),
    ("person_in_bed_medium-light_skin_tone", "🛌🏼"), ("person_in_bed_medium_skin_tone", "🛌🏽"),
    ("person_in_lotus_position", "🧘"), ("person_in_lotus_position_dark_skin_tone", "🧘🏿"),
    ("person_in_lotus_position_light_skin_tone", "🧘🏻"),
    ("person_in_lotus_position_medium-dark_skin_tone", "🧘🏾"),
    ("person_in_lotus_position_medium-light_skin_tone", "🧘🏼"),
    ("person_in_lotus_position_medium_skin_tone", "🧘🏽"), ("person_in_steamy_room", "🧖"),
    ("person_in_steamy_room_dark_skin_tone", "🧖🏿"),
    ("person_in_steamy_room_light_skin_tone", "🧖🏻"),
    ("person_in_steamy_room_medium-dark_skin_tone", "🧖🏾"),
    ("person_in_steamy_room_medium-light_skin_tone", "🧖🏼"),
    ("person_in_steamy_room_medium_skin_tone", "🧖🏽"), ("person_juggling", "🤹"),
    ("person_juggling_dark_skin_tone", "🤹🏿"), ("person_juggling_light_skin_tone", "🤹🏻"),
    ("person_juggling_medium-dark_skin_tone", "🤹🏾"),
    ("person_juggling_medium-light_skin_tone", "🤹🏼"),
    ("person_juggling_medium_skin_tone", "🤹🏽"), ("person_kneeling", "🧎"),
    ("person_lifting_weights", "🏋"), ("person_lifting_weights_dark_skin_tone", "🏋🏿"),
    ("person_lifting_weights_light_skin_tone", "🏋🏻"),
    ("person_lifting_weights_medium-dark_skin_tone", "🏋🏾"),
    ("person_lifting_weights_medium-light_skin_tone", "🏋🏼"),
    ("person_lifting_weights_medium_skin_tone", "🏋🏽"), ("person_mountain_biking", "🚵"),
    ("person_mountain_biking_dark_skin_tone", "🚵🏿"),
    ("person_mountain_biking_light_skin_tone", "🚵🏻"),
    ("person_mountain_biking_medium-dark_skin_tone", "🚵🏾"),
    ("person_mountain_biking_medium-light_skin_tone", "🚵🏼"),
    ("person_mountain_biking_medium_skin_tone", "🚵🏽"), ("person_playing_handball", "🤾"),
    ("person_playing_handball_dark_skin_tone", "🤾🏿"),
    ("person_playing_handball_light_skin_tone", "🤾🏻"),
    ("person_playing_handball_medium-dark_skin_tone", "🤾🏾"),
    ("person_playing_handball_medium-light_skin_tone", "🤾🏼"),
    ("person_playing_handball_medium_skin_tone", "🤾🏽"), ("person_playing_water_polo", "🤽"),
    ("person_playing_water_polo_dark_skin_tone", "🤽🏿"),
    ("person_playing_water_polo_light_skin_tone", "🤽🏻"),
    ("person_playing_water_polo_medium-dark_skin_tone", "🤽🏾"),
    ("person_playing_water_polo_medium-light_skin_tone", "🤽🏼"),
    ("person_playing_water_polo_medium_skin_tone", "🤽🏽"), ("person_pouting", "🙎"),
    ("person_pouting_dark_skin_tone", "🙎🏿"), ("person_pouting_light_skin_tone", "🙎🏻"),
    ("person_pouting_medium-dark_skin_tone", "🙎🏾"),
    ("person_pouting_medium-light_skin_tone", "🙎🏼"),
    ("person_pouting_medium_skin_tone", "🙎🏽"), ("person_raising_hand", "🙋"),
    ("person_raising_hand_dark_skin_tone", "🙋🏿"),
    ("person_raising_hand_light_skin_tone", "🙋🏻"),
    ("person_raising_hand_medium-dark_skin_tone", "🙋🏾"),
    ("person_raising_hand_medium-light_skin_tone", "🙋🏼"),
    ("person_raising_hand_medium_skin_tone", "🙋🏽"), ("person_rowing_boat", "🚣"),
    ("person_rowing_boat_dark_skin_tone", "🚣🏿"), ("person_rowing_boat_light_skin_tone", "🚣🏻"),
    ("person_rowing_boat_medium-dark_skin_tone", "🚣🏾"),
    ("person_rowing_boat_medium-light_skin_tone", "🚣🏼"),
    ("person_rowing_boat_medium_skin_tone", "🚣🏽"), ("person_running", "🏃"),
    ("person_running_dark_skin_tone", "🏃🏿"), ("person_running_light_skin_tone", "🏃🏻"),
    ("person_running_medium-dark_skin_tone", "🏃🏾"),
    ("person_running_medium-light_skin_tone", "🏃🏼"),
    ("person_running_medium_skin_tone", "🏃🏽"), ("person_shrugging", "🤷"),
    ("person_shrugging_dark_skin_tone", "🤷🏿"), ("person_shrugging_light_skin_tone", "🤷🏻"),
    ("person_shrugging_medium-dark_skin_tone", "🤷🏾"),
    ("person_shrugging_medium-light_skin_tone", "🤷🏼"),
    ("person_shrugging_medium_skin_tone", "🤷🏽"), ("person_standing", "🧍"),
    ("person_surfing", "🏄"), ("person_surfing_dark_skin_tone", "🏄🏿"),
    ("person_surfing_light_skin_tone", "🏄🏻"), ("person_surfing_medium-dark_skin_tone", "🏄🏾"),
    ("person_surfing_medium-light_skin_tone", "🏄🏼"),
    ("person_surfing_medium_skin_tone", "🏄🏽"), ("person_swimming", "🏊"),
    ("person_swimming_dark_skin_tone", "🏊🏿"), ("person_swimming_light_skin_tone", "🏊🏻"),
    ("person_swimming_medium-dark_skin_tone", "🏊🏾"),
    ("person_swimming_medium-light_skin_tone", "🏊🏼"),
    ("person_swimming_medium_skin_tone", "🏊🏽"), ("person_taking_bath", "🛀"),
    ("person_taking_bath_dark_skin_tone", "🛀🏿"), ("person_taking_bath_light_skin_tone", "🛀🏻"),
    ("person_taking_bath_medium-dark_skin_tone", "🛀🏾"),
    ("person_taking_bath_medium-light_skin_tone", "🛀🏼"),
    ("person_taking_bath_medium_skin_tone", "🛀🏽"), ("person_tipping_hand", "💁"),
    ("person_tipping_hand_dark_skin_tone", "💁🏿"),
    ("person_tipping_hand_light_skin_tone", "💁🏻"),
    ("person_tipping_hand_medium-dark_skin_tone", "💁🏾"),
    ("person_tipping_hand_medium-light_skin_tone", "💁🏼"),
    ("person_tipping_hand_medium_skin_tone", "💁🏽"), ("person_walking", "🚶"),
    ("person_walking_dark_skin_tone", "🚶🏿"), ("person_walking_light_skin_tone", "🚶🏻"),
    ("person_walking_medium-dark_skin_tone", "🚶🏾"),
    ("person_walking_medium-light_skin_tone", "🚶🏼"),
    ("person_walking_medium_skin_tone", "🚶🏽"), ("person_wearing_turban", "👳"),
    ("person_wearing_turban_dark_skin_tone", "👳🏿"),
    ("person_wearing_turban_light_skin_tone", "👳🏻"),
    ("person_wearing_turban_medium-dark_skin_tone", "👳🏾"),
    ("person_wearing_turban_medium-light_skin_tone", "👳🏼"),
    ("person_wearing_turban_medium_skin_tone", "👳🏽"), ("person_with_ball", "⛹"),
    ("person_with_blond_hair", "👱"), ("person_with_pouting_face", "🙎"), ("peru", "🇵🇪"),
    ("petri_dish", "🧫"), ("philippines", "🇵🇭"), ("phone", "☎"), ("pick", "⛏"), ("pie", "🥧"),
    ("pig", "🐷"), ("pig2", "🐖"), ("pig_face", "🐷"), ("pig_nose", "🐽"), ("pile_of_poo", "💩"),
    ("pill", "💊"), ("pinching_hand", "🤏"), ("pine_decoration", "🎍"), ("pineapple", "🍍"),
    ("ping_pong", "🏓"), ("pirate_flag", "🏴‍☠️"), ("pisces", "♓"), ("pistol", "🔫"),
    ("pitcairn_islands", "🇵🇳"), ("pizza", "🍕"), ("place_of_worship", "🛐"),
    ("play_button", "▶"), ("play_or_pause_button", "⏯"), ("pleading_face", "🥺"),
    ("point_down", "👇"), ("point_left", "👈"), ("point_right", "👉"), ("point_up", "☝"),
    ("point_up_2", "👆"), ("poland", "🇵🇱"), ("police_car", "🚓"), ("police_car_light", "🚨"),
    ("police_officer", "👮"), ("police_officer_dark_skin_tone", "👮🏿"),
    ("police_officer_light_skin_tone", "👮🏻"), ("police_officer_medium-dark_skin_tone", "👮🏾"),
    ("police_officer_medium-light_skin_tone", "👮🏼"),
    ("police_officer_medium_skin_tone", "👮🏽"), ("poodle", "🐩"), ("pool_8_ball", "🎱"),
    ("poop", "💩"), ("popcorn", "🍿"), ("portugal", "🇵🇹"), ("post_office", "🏣"),
    ("postal_horn", "📯"), ("postbox", "📮"), ("pot_of_food", "🍲"), ("potable_water", "🚰"),
    ("potato", "🥔"), ("pouch", "👝"), ("poultry_leg", "🍗"), ("pound", "💷"),
    ("pound_banknote", "💷"), ("pouting_cat", "😾"), ("pouting_cat_face", "😾"),
    ("pouting_face", "😡"), ("pray", "🙏"), ("prayer_beads", "📿"), ("pregnant_woman", "🤰"),
    ("pregnant_woman_dark_skin_tone", "🤰🏿"), ("pregnant_woman_light_skin_tone", "🤰🏻"),
    ("pregnant_woman_medium-dark_skin_tone", "🤰🏾"),
    ("pregnant_woman_medium-light_skin_tone", "🤰🏼"),
    ("pregnant_woman_medium_skin_tone", "🤰🏽"), ("pretzel", "🥨"), ("prince", "🤴"),
    ("prince_dark_skin_tone", "🤴🏿"), ("prince_light_skin_tone", "🤴🏻"),
    ("prince_medium-dark_skin_tone", "🤴🏾"), ("prince_medium-light_skin_tone", "🤴🏼"),
    ("prince_medium_skin_tone", "🤴🏽"), ("princess", "👸"), ("princess_dark_skin_tone", "👸🏿"),
    ("princess_light_skin_tone", "👸🏻"), ("princess_medium-dark_skin_tone", "👸🏾"),
    ("princess_medium-light_skin_tone", "👸🏼"), ("princess_medium_skin_tone", "👸🏽"),
    ("printer", "🖨"), ("probing_cane", "🦯"), ("prohibited", "🚫"), ("puerto_rico", "🇵🇷"),
    ("punch", "👊"), ("purple_circle", "🟣"), ("purple_heart", "💜"), ("purple_square", "🟪"),
    ("purse", "👛"), ("pushpin", "📌"), ("put_litter_in_its_place", "🚮"), ("qatar", "🇶🇦"),
    ("question", "❓"), ("question_mark", "❓")]

end InlineNotes.Message.Emoji
