import Tether.Unicode.Range

/-! Pictures among the characters: which ones there are, and what joins them (Unicode 17). -/
namespace Tether.Unicode

def pictographRanges : List Range := [
  ⟨0xA9, 0xA9⟩, ⟨0xAE, 0xAE⟩, ⟨0x203C, 0x203C⟩, ⟨0x2049, 0x2049⟩, ⟨0x2122, 0x2122⟩,
  ⟨0x2139, 0x2139⟩, ⟨0x2194, 0x2199⟩, ⟨0x21A9, 0x21AA⟩, ⟨0x231A, 0x231B⟩, ⟨0x2328, 0x2328⟩,
  ⟨0x23CF, 0x23CF⟩, ⟨0x23E9, 0x23F3⟩, ⟨0x23F8, 0x23FA⟩, ⟨0x24C2, 0x24C2⟩, ⟨0x25AA, 0x25AB⟩,
  ⟨0x25B6, 0x25B6⟩, ⟨0x25C0, 0x25C0⟩, ⟨0x25FB, 0x25FE⟩, ⟨0x2600, 0x2604⟩, ⟨0x260E, 0x260E⟩,
  ⟨0x2611, 0x2611⟩, ⟨0x2614, 0x2615⟩, ⟨0x2618, 0x2618⟩, ⟨0x261D, 0x261D⟩, ⟨0x2620, 0x2620⟩,
  ⟨0x2622, 0x2623⟩, ⟨0x2626, 0x2626⟩, ⟨0x262A, 0x262A⟩, ⟨0x262E, 0x262F⟩, ⟨0x2638, 0x263A⟩,
  ⟨0x2640, 0x2640⟩, ⟨0x2642, 0x2642⟩, ⟨0x2648, 0x2653⟩, ⟨0x265F, 0x2660⟩, ⟨0x2663, 0x2663⟩,
  ⟨0x2665, 0x2666⟩, ⟨0x2668, 0x2668⟩, ⟨0x267B, 0x267B⟩, ⟨0x267E, 0x267F⟩, ⟨0x2692, 0x2697⟩,
  ⟨0x2699, 0x2699⟩, ⟨0x269B, 0x269C⟩, ⟨0x26A0, 0x26A1⟩, ⟨0x26A7, 0x26A7⟩, ⟨0x26AA, 0x26AB⟩,
  ⟨0x26B0, 0x26B1⟩, ⟨0x26BD, 0x26BE⟩, ⟨0x26C4, 0x26C5⟩, ⟨0x26C8, 0x26C8⟩, ⟨0x26CE, 0x26CF⟩,
  ⟨0x26D1, 0x26D1⟩, ⟨0x26D3, 0x26D4⟩, ⟨0x26E9, 0x26EA⟩, ⟨0x26F0, 0x26F5⟩, ⟨0x26F7, 0x26FA⟩,
  ⟨0x26FD, 0x26FD⟩, ⟨0x2702, 0x2702⟩, ⟨0x2705, 0x2705⟩, ⟨0x2708, 0x270D⟩, ⟨0x270F, 0x270F⟩,
  ⟨0x2712, 0x2712⟩, ⟨0x2714, 0x2714⟩, ⟨0x2716, 0x2716⟩, ⟨0x271D, 0x271D⟩, ⟨0x2721, 0x2721⟩,
  ⟨0x2728, 0x2728⟩, ⟨0x2733, 0x2734⟩, ⟨0x2744, 0x2744⟩, ⟨0x2747, 0x2747⟩, ⟨0x274C, 0x274C⟩,
  ⟨0x274E, 0x274E⟩, ⟨0x2753, 0x2755⟩, ⟨0x2757, 0x2757⟩, ⟨0x2763, 0x2764⟩, ⟨0x2795, 0x2797⟩,
  ⟨0x27A1, 0x27A1⟩, ⟨0x27B0, 0x27B0⟩, ⟨0x27BF, 0x27BF⟩, ⟨0x2934, 0x2935⟩, ⟨0x2B05, 0x2B07⟩,
  ⟨0x2B1B, 0x2B1C⟩, ⟨0x2B50, 0x2B50⟩, ⟨0x2B55, 0x2B55⟩, ⟨0x3030, 0x3030⟩, ⟨0x303D, 0x303D⟩,
  ⟨0x3297, 0x3297⟩, ⟨0x3299, 0x3299⟩, ⟨0x1F004, 0x1F004⟩, ⟨0x1F02C, 0x1F02F⟩, ⟨0x1F094, 0x1F09F⟩,
  ⟨0x1F0AF, 0x1F0B0⟩, ⟨0x1F0C0, 0x1F0C0⟩, ⟨0x1F0CF, 0x1F0D0⟩, ⟨0x1F0F6, 0x1F0FF⟩,
  ⟨0x1F170, 0x1F171⟩, ⟨0x1F17E, 0x1F17F⟩, ⟨0x1F18E, 0x1F18E⟩, ⟨0x1F191, 0x1F19A⟩,
  ⟨0x1F1AE, 0x1F1E5⟩, ⟨0x1F201, 0x1F20F⟩, ⟨0x1F21A, 0x1F21A⟩, ⟨0x1F22F, 0x1F22F⟩,
  ⟨0x1F232, 0x1F23A⟩, ⟨0x1F23C, 0x1F23F⟩, ⟨0x1F249, 0x1F25F⟩, ⟨0x1F266, 0x1F321⟩,
  ⟨0x1F324, 0x1F393⟩, ⟨0x1F396, 0x1F397⟩, ⟨0x1F399, 0x1F39B⟩, ⟨0x1F39E, 0x1F3F0⟩,
  ⟨0x1F3F3, 0x1F3F5⟩, ⟨0x1F3F7, 0x1F3FA⟩, ⟨0x1F400, 0x1F4FD⟩, ⟨0x1F4FF, 0x1F53D⟩,
  ⟨0x1F549, 0x1F54E⟩, ⟨0x1F550, 0x1F567⟩, ⟨0x1F56F, 0x1F570⟩, ⟨0x1F573, 0x1F57A⟩,
  ⟨0x1F587, 0x1F587⟩, ⟨0x1F58A, 0x1F58D⟩, ⟨0x1F590, 0x1F590⟩, ⟨0x1F595, 0x1F596⟩,
  ⟨0x1F5A4, 0x1F5A5⟩, ⟨0x1F5A8, 0x1F5A8⟩, ⟨0x1F5B1, 0x1F5B2⟩, ⟨0x1F5BC, 0x1F5BC⟩,
  ⟨0x1F5C2, 0x1F5C4⟩, ⟨0x1F5D1, 0x1F5D3⟩, ⟨0x1F5DC, 0x1F5DE⟩, ⟨0x1F5E1, 0x1F5E1⟩,
  ⟨0x1F5E3, 0x1F5E3⟩, ⟨0x1F5E8, 0x1F5E8⟩, ⟨0x1F5EF, 0x1F5EF⟩, ⟨0x1F5F3, 0x1F5F3⟩,
  ⟨0x1F5FA, 0x1F64F⟩, ⟨0x1F680, 0x1F6C5⟩, ⟨0x1F6CB, 0x1F6D2⟩, ⟨0x1F6D5, 0x1F6E5⟩,
  ⟨0x1F6E9, 0x1F6E9⟩, ⟨0x1F6EB, 0x1F6F0⟩, ⟨0x1F6F3, 0x1F6FF⟩, ⟨0x1F7DA, 0x1F7FF⟩,
  ⟨0x1F80C, 0x1F80F⟩, ⟨0x1F848, 0x1F84F⟩, ⟨0x1F85A, 0x1F85F⟩, ⟨0x1F888, 0x1F88F⟩,
  ⟨0x1F8AE, 0x1F8AF⟩, ⟨0x1F8BC, 0x1F8BF⟩, ⟨0x1F8C2, 0x1F8CF⟩, ⟨0x1F8D9, 0x1F8FF⟩,
  ⟨0x1F90C, 0x1F93A⟩, ⟨0x1F93C, 0x1F945⟩, ⟨0x1F947, 0x1F9FF⟩, ⟨0x1FA58, 0x1FA5F⟩,
  ⟨0x1FA6E, 0x1FAFF⟩, ⟨0x1FC00, 0x1FFFD⟩]

def modifierBaseRanges : List Range := [
  ⟨0x261D, 0x261D⟩, ⟨0x26F9, 0x26F9⟩, ⟨0x270A, 0x270D⟩, ⟨0x1F385, 0x1F385⟩, ⟨0x1F3C2, 0x1F3C4⟩,
  ⟨0x1F3C7, 0x1F3C7⟩, ⟨0x1F3CA, 0x1F3CC⟩, ⟨0x1F442, 0x1F443⟩, ⟨0x1F446, 0x1F450⟩,
  ⟨0x1F466, 0x1F478⟩, ⟨0x1F47C, 0x1F47C⟩, ⟨0x1F481, 0x1F483⟩, ⟨0x1F485, 0x1F487⟩,
  ⟨0x1F48F, 0x1F48F⟩, ⟨0x1F491, 0x1F491⟩, ⟨0x1F4AA, 0x1F4AA⟩, ⟨0x1F574, 0x1F575⟩,
  ⟨0x1F57A, 0x1F57A⟩, ⟨0x1F590, 0x1F590⟩, ⟨0x1F595, 0x1F596⟩, ⟨0x1F645, 0x1F647⟩,
  ⟨0x1F64B, 0x1F64F⟩, ⟨0x1F6A3, 0x1F6A3⟩, ⟨0x1F6B4, 0x1F6B6⟩, ⟨0x1F6C0, 0x1F6C0⟩,
  ⟨0x1F6CC, 0x1F6CC⟩, ⟨0x1F90C, 0x1F90C⟩, ⟨0x1F90F, 0x1F90F⟩, ⟨0x1F918, 0x1F91F⟩,
  ⟨0x1F926, 0x1F926⟩, ⟨0x1F930, 0x1F939⟩, ⟨0x1F93C, 0x1F93E⟩, ⟨0x1F977, 0x1F977⟩,
  ⟨0x1F9B5, 0x1F9B6⟩, ⟨0x1F9B8, 0x1F9B9⟩, ⟨0x1F9BB, 0x1F9BB⟩, ⟨0x1F9CD, 0x1F9CF⟩,
  ⟨0x1F9D1, 0x1F9DD⟩, ⟨0x1FAC3, 0x1FAC5⟩, ⟨0x1FAF0, 0x1FAF8⟩]

/-- The property Emoji_Presentation, without the letters of flags and the skin tones. -/
def pictureRanges : List Range := [
  ⟨0x231A, 0x231B⟩, ⟨0x23E9, 0x23EC⟩, ⟨0x23F0, 0x23F0⟩, ⟨0x23F3, 0x23F3⟩, ⟨0x25FD, 0x25FE⟩,
  ⟨0x2614, 0x2615⟩, ⟨0x2648, 0x2653⟩, ⟨0x267F, 0x267F⟩, ⟨0x2693, 0x2693⟩, ⟨0x26A1, 0x26A1⟩,
  ⟨0x26AA, 0x26AB⟩, ⟨0x26BD, 0x26BE⟩, ⟨0x26C4, 0x26C5⟩, ⟨0x26CE, 0x26CE⟩, ⟨0x26D4, 0x26D4⟩,
  ⟨0x26EA, 0x26EA⟩, ⟨0x26F2, 0x26F3⟩, ⟨0x26F5, 0x26F5⟩, ⟨0x26FA, 0x26FA⟩, ⟨0x26FD, 0x26FD⟩,
  ⟨0x2705, 0x2705⟩, ⟨0x270A, 0x270B⟩, ⟨0x2728, 0x2728⟩, ⟨0x274C, 0x274C⟩, ⟨0x274E, 0x274E⟩,
  ⟨0x2753, 0x2755⟩, ⟨0x2757, 0x2757⟩, ⟨0x2795, 0x2797⟩, ⟨0x27B0, 0x27B0⟩, ⟨0x27BF, 0x27BF⟩,
  ⟨0x2B1B, 0x2B1C⟩, ⟨0x2B50, 0x2B50⟩, ⟨0x2B55, 0x2B55⟩, ⟨0x1F004, 0x1F004⟩, ⟨0x1F0CF, 0x1F0CF⟩,
  ⟨0x1F18E, 0x1F18E⟩, ⟨0x1F191, 0x1F19A⟩, ⟨0x1F201, 0x1F201⟩, ⟨0x1F21A, 0x1F21A⟩,
  ⟨0x1F22F, 0x1F22F⟩, ⟨0x1F232, 0x1F236⟩, ⟨0x1F238, 0x1F23A⟩, ⟨0x1F250, 0x1F251⟩,
  ⟨0x1F300, 0x1F320⟩, ⟨0x1F32D, 0x1F335⟩, ⟨0x1F337, 0x1F37C⟩, ⟨0x1F37E, 0x1F393⟩,
  ⟨0x1F3A0, 0x1F3CA⟩, ⟨0x1F3CF, 0x1F3D3⟩, ⟨0x1F3E0, 0x1F3F0⟩, ⟨0x1F3F4, 0x1F3F4⟩,
  ⟨0x1F3F8, 0x1F3FA⟩, ⟨0x1F400, 0x1F43E⟩, ⟨0x1F440, 0x1F440⟩, ⟨0x1F442, 0x1F4FC⟩,
  ⟨0x1F4FF, 0x1F53D⟩, ⟨0x1F54B, 0x1F54E⟩, ⟨0x1F550, 0x1F567⟩, ⟨0x1F57A, 0x1F57A⟩,
  ⟨0x1F595, 0x1F596⟩, ⟨0x1F5A4, 0x1F5A4⟩, ⟨0x1F5FB, 0x1F64F⟩, ⟨0x1F680, 0x1F6C5⟩,
  ⟨0x1F6CC, 0x1F6CC⟩, ⟨0x1F6D0, 0x1F6D2⟩, ⟨0x1F6D5, 0x1F6D8⟩, ⟨0x1F6DC, 0x1F6DF⟩,
  ⟨0x1F6EB, 0x1F6EC⟩, ⟨0x1F6F4, 0x1F6FC⟩, ⟨0x1F7E0, 0x1F7EB⟩, ⟨0x1F7F0, 0x1F7F0⟩,
  ⟨0x1F90C, 0x1F93A⟩, ⟨0x1F93C, 0x1F945⟩, ⟨0x1F947, 0x1F9FF⟩, ⟨0x1FA70, 0x1FA7C⟩,
  ⟨0x1FA80, 0x1FA8A⟩, ⟨0x1FA8E, 0x1FAC6⟩, ⟨0x1FAC8, 0x1FAC8⟩, ⟨0x1FACD, 0x1FADC⟩,
  ⟨0x1FADF, 0x1FAEA⟩, ⟨0x1FAEF, 0x1FAF8⟩]

/-- The characters from U+0080 on that have a text form and a picture form to select from. -/
def formRanges : List Range := [
  ⟨0xA9, 0xA9⟩, ⟨0xAE, 0xAE⟩, ⟨0x203C, 0x203C⟩, ⟨0x2049, 0x2049⟩, ⟨0x2122, 0x2122⟩,
  ⟨0x2139, 0x2139⟩, ⟨0x2194, 0x2199⟩, ⟨0x21A9, 0x21AA⟩, ⟨0x231A, 0x231B⟩, ⟨0x2328, 0x2328⟩,
  ⟨0x23CF, 0x23CF⟩, ⟨0x23E9, 0x23F3⟩, ⟨0x23F8, 0x23FA⟩, ⟨0x24C2, 0x24C2⟩, ⟨0x25AA, 0x25AB⟩,
  ⟨0x25B6, 0x25B6⟩, ⟨0x25C0, 0x25C0⟩, ⟨0x25FB, 0x25FE⟩, ⟨0x2600, 0x2604⟩, ⟨0x260E, 0x260E⟩,
  ⟨0x2611, 0x2611⟩, ⟨0x2614, 0x2615⟩, ⟨0x2618, 0x2618⟩, ⟨0x261D, 0x261D⟩, ⟨0x2620, 0x2620⟩,
  ⟨0x2622, 0x2623⟩, ⟨0x2626, 0x2626⟩, ⟨0x262A, 0x262A⟩, ⟨0x262E, 0x262F⟩, ⟨0x2638, 0x263A⟩,
  ⟨0x2640, 0x2640⟩, ⟨0x2642, 0x2642⟩, ⟨0x2648, 0x2653⟩, ⟨0x265F, 0x2660⟩, ⟨0x2663, 0x2663⟩,
  ⟨0x2665, 0x2666⟩, ⟨0x2668, 0x2668⟩, ⟨0x267B, 0x267B⟩, ⟨0x267E, 0x267F⟩, ⟨0x2692, 0x2697⟩,
  ⟨0x2699, 0x2699⟩, ⟨0x269B, 0x269C⟩, ⟨0x26A0, 0x26A1⟩, ⟨0x26A7, 0x26A7⟩, ⟨0x26AA, 0x26AB⟩,
  ⟨0x26B0, 0x26B1⟩, ⟨0x26BD, 0x26BE⟩, ⟨0x26C4, 0x26C5⟩, ⟨0x26C8, 0x26C8⟩, ⟨0x26CE, 0x26CF⟩,
  ⟨0x26D1, 0x26D1⟩, ⟨0x26D3, 0x26D4⟩, ⟨0x26E9, 0x26EA⟩, ⟨0x26F0, 0x26F5⟩, ⟨0x26F7, 0x26FA⟩,
  ⟨0x26FD, 0x26FD⟩, ⟨0x2702, 0x2702⟩, ⟨0x2705, 0x2705⟩, ⟨0x2708, 0x270D⟩, ⟨0x270F, 0x270F⟩,
  ⟨0x2712, 0x2712⟩, ⟨0x2714, 0x2714⟩, ⟨0x2716, 0x2716⟩, ⟨0x271D, 0x271D⟩, ⟨0x2721, 0x2721⟩,
  ⟨0x2728, 0x2728⟩, ⟨0x2733, 0x2734⟩, ⟨0x2744, 0x2744⟩, ⟨0x2747, 0x2747⟩, ⟨0x274C, 0x274C⟩,
  ⟨0x274E, 0x274E⟩, ⟨0x2753, 0x2755⟩, ⟨0x2757, 0x2757⟩, ⟨0x2763, 0x2764⟩, ⟨0x2795, 0x2797⟩,
  ⟨0x27A1, 0x27A1⟩, ⟨0x27B0, 0x27B0⟩, ⟨0x27BF, 0x27BF⟩, ⟨0x2934, 0x2935⟩, ⟨0x2B05, 0x2B07⟩,
  ⟨0x2B1B, 0x2B1C⟩, ⟨0x2B50, 0x2B50⟩, ⟨0x2B55, 0x2B55⟩, ⟨0x3030, 0x3030⟩, ⟨0x303D, 0x303D⟩,
  ⟨0x3297, 0x3297⟩, ⟨0x3299, 0x3299⟩, ⟨0x1F004, 0x1F004⟩, ⟨0x1F170, 0x1F171⟩, ⟨0x1F17E, 0x1F17F⟩,
  ⟨0x1F202, 0x1F202⟩, ⟨0x1F21A, 0x1F21A⟩, ⟨0x1F22F, 0x1F22F⟩, ⟨0x1F237, 0x1F237⟩,
  ⟨0x1F30D, 0x1F30F⟩, ⟨0x1F315, 0x1F315⟩, ⟨0x1F31C, 0x1F31C⟩, ⟨0x1F321, 0x1F321⟩,
  ⟨0x1F324, 0x1F32C⟩, ⟨0x1F336, 0x1F336⟩, ⟨0x1F378, 0x1F378⟩, ⟨0x1F37D, 0x1F37D⟩,
  ⟨0x1F393, 0x1F393⟩, ⟨0x1F396, 0x1F397⟩, ⟨0x1F399, 0x1F39B⟩, ⟨0x1F39E, 0x1F39F⟩,
  ⟨0x1F3A7, 0x1F3A7⟩, ⟨0x1F3AC, 0x1F3AE⟩, ⟨0x1F3C2, 0x1F3C2⟩, ⟨0x1F3C4, 0x1F3C4⟩,
  ⟨0x1F3C6, 0x1F3C6⟩, ⟨0x1F3CA, 0x1F3CE⟩, ⟨0x1F3D4, 0x1F3E0⟩, ⟨0x1F3ED, 0x1F3ED⟩,
  ⟨0x1F3F3, 0x1F3F3⟩, ⟨0x1F3F5, 0x1F3F5⟩, ⟨0x1F3F7, 0x1F3F7⟩, ⟨0x1F408, 0x1F408⟩,
  ⟨0x1F415, 0x1F415⟩, ⟨0x1F41F, 0x1F41F⟩, ⟨0x1F426, 0x1F426⟩, ⟨0x1F43F, 0x1F43F⟩,
  ⟨0x1F441, 0x1F442⟩, ⟨0x1F446, 0x1F449⟩, ⟨0x1F44D, 0x1F44E⟩, ⟨0x1F453, 0x1F453⟩,
  ⟨0x1F46A, 0x1F46A⟩, ⟨0x1F47D, 0x1F47D⟩, ⟨0x1F4A3, 0x1F4A3⟩, ⟨0x1F4B0, 0x1F4B0⟩,
  ⟨0x1F4B3, 0x1F4B3⟩, ⟨0x1F4BB, 0x1F4BB⟩, ⟨0x1F4BF, 0x1F4BF⟩, ⟨0x1F4CB, 0x1F4CB⟩,
  ⟨0x1F4DA, 0x1F4DA⟩, ⟨0x1F4DF, 0x1F4DF⟩, ⟨0x1F4E4, 0x1F4E6⟩, ⟨0x1F4EA, 0x1F4ED⟩,
  ⟨0x1F4F7, 0x1F4F7⟩, ⟨0x1F4F9, 0x1F4FB⟩, ⟨0x1F4FD, 0x1F4FD⟩, ⟨0x1F508, 0x1F508⟩,
  ⟨0x1F50D, 0x1F50D⟩, ⟨0x1F512, 0x1F513⟩, ⟨0x1F549, 0x1F54A⟩, ⟨0x1F550, 0x1F567⟩,
  ⟨0x1F56F, 0x1F570⟩, ⟨0x1F573, 0x1F579⟩, ⟨0x1F587, 0x1F587⟩, ⟨0x1F58A, 0x1F58D⟩,
  ⟨0x1F590, 0x1F590⟩, ⟨0x1F5A5, 0x1F5A5⟩, ⟨0x1F5A8, 0x1F5A8⟩, ⟨0x1F5B1, 0x1F5B2⟩,
  ⟨0x1F5BC, 0x1F5BC⟩, ⟨0x1F5C2, 0x1F5C4⟩, ⟨0x1F5D1, 0x1F5D3⟩, ⟨0x1F5DC, 0x1F5DE⟩,
  ⟨0x1F5E1, 0x1F5E1⟩, ⟨0x1F5E3, 0x1F5E3⟩, ⟨0x1F5E8, 0x1F5E8⟩, ⟨0x1F5EF, 0x1F5EF⟩,
  ⟨0x1F5F3, 0x1F5F3⟩, ⟨0x1F5FA, 0x1F5FA⟩, ⟨0x1F610, 0x1F610⟩, ⟨0x1F687, 0x1F687⟩,
  ⟨0x1F68D, 0x1F68D⟩, ⟨0x1F691, 0x1F691⟩, ⟨0x1F694, 0x1F694⟩, ⟨0x1F698, 0x1F698⟩,
  ⟨0x1F6AD, 0x1F6AD⟩, ⟨0x1F6B2, 0x1F6B2⟩, ⟨0x1F6B9, 0x1F6BA⟩, ⟨0x1F6BC, 0x1F6BC⟩,
  ⟨0x1F6CB, 0x1F6CB⟩, ⟨0x1F6CD, 0x1F6CF⟩, ⟨0x1F6E0, 0x1F6E5⟩, ⟨0x1F6E9, 0x1F6E9⟩,
  ⟨0x1F6F0, 0x1F6F0⟩, ⟨0x1F6F3, 0x1F6F3⟩]

def isPictograph (c : Char) : Bool :=
  if c.toNat < 0xA9 then false else member pictographRanges c

def isModifierBase (c : Char) : Bool :=
  if c.toNat < 0x261D then false else member modifierBaseRanges c

def isPicture (c : Char) : Bool :=
  if c.toNat < 0x231A then false else member pictureRanges c

def hasForms (c : Char) : Bool :=
  if c.toNat < 0xA9 then c.isDigit || c = '#' || c = '*' else member formRanges c

def isEmojiModifier (c : Char) : Bool := 0x1F3FB ≤ c.toNat && c.toNat ≤ 0x1F3FF

/-- The letters that make flags in pairs. -/
def isRegionalIndicator (c : Char) : Bool := 0x1F1E6 ≤ c.toNat && c.toNat ≤ 0x1F1FF

/-- The character that joins its neighbours into one picture or letter. -/
def joiner : Char := '\u200D'

end Tether.Unicode
