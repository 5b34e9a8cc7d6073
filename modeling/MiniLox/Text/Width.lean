import MiniLox.Text.Grapheme

/-!
# Display width

How many terminal columns a text takes. Printable ASCII characters and DEL take one column
each, the other ASCII controls none. Escape sequences (`ESC [ ... m` and the like) take none,
and neither do the characters of the operating-system and device-control strings they open.
Any other character starts a grapheme cluster, which takes the width of its first character
plus that of each character joined to it, unless the cluster is a pair of regional indicators
or a Hangul syllable built from jamo (then the first character alone counts); a pictograph's
width is set by a variation selector after it (text 1, emoji 2).

A character's own width: none for controls, line breaks and the Extend and ZWJ classes, two for
East Asian wide and fullwidth characters, regional indicators and emoji shown as emoji by
default, three and four for the two- and three-em dashes, one otherwise (Unicode 15.0).
-/

set_option autoImplicit false

namespace MiniLox.Text

def wideRanges : List (Nat × Nat) := [
  (0x1100, 0x115F), (0x231A, 0x231B), (0x2329, 0x232A), (0x23E9, 0x23EC),
  (0x23F0, 0x23F0), (0x23F3, 0x23F3), (0x25FD, 0x25FE), (0x2614, 0x2615),
  (0x2648, 0x2653), (0x267F, 0x267F), (0x2693, 0x2693), (0x26A1, 0x26A1),
  (0x26AA, 0x26AB), (0x26BD, 0x26BE), (0x26C4, 0x26C5), (0x26CE, 0x26CE),
  (0x26D4, 0x26D4), (0x26EA, 0x26EA), (0x26F2, 0x26F3), (0x26F5, 0x26F5),
  (0x26FA, 0x26FA), (0x26FD, 0x26FD), (0x2705, 0x2705), (0x270A, 0x270B),
  (0x2728, 0x2728), (0x274C, 0x274C), (0x274E, 0x274E), (0x2753, 0x2755),
  (0x2757, 0x2757), (0x2795, 0x2797), (0x27B0, 0x27B0), (0x27BF, 0x27BF),
  (0x2B1B, 0x2B1C), (0x2B50, 0x2B50), (0x2B55, 0x2B55), (0x2E80, 0x2E99),
  (0x2E9B, 0x2EF3), (0x2F00, 0x2FD5), (0x2FF0, 0x2FFB), (0x3000, 0x303E),
  (0x3041, 0x3096), (0x3099, 0x30FF), (0x3105, 0x312F), (0x3131, 0x318E),
  (0x3190, 0x31E3), (0x31F0, 0x321E), (0x3220, 0x3247), (0x3250, 0x4DBF),
  (0x4E00, 0xA48C), (0xA490, 0xA4C6), (0xA960, 0xA97C), (0xAC00, 0xD7A3),
  (0xF900, 0xFAFF), (0xFE10, 0xFE19), (0xFE30, 0xFE52), (0xFE54, 0xFE66),
  (0xFE68, 0xFE6B), (0xFF01, 0xFF60), (0xFFE0, 0xFFE6), (0x16FE0, 0x16FE4),
  (0x16FF0, 0x16FF1), (0x17000, 0x187F7), (0x18800, 0x18CD5), (0x18D00, 0x18D08),
  (0x1AFF0, 0x1AFF3), (0x1AFF5, 0x1AFFB), (0x1AFFD, 0x1AFFE), (0x1B000, 0x1B122),
  (0x1B132, 0x1B132), (0x1B150, 0x1B152), (0x1B155, 0x1B155), (0x1B164, 0x1B167),
  (0x1B170, 0x1B2FB), (0x1F004, 0x1F004), (0x1F0CF, 0x1F0CF), (0x1F18E, 0x1F18E),
  (0x1F191, 0x1F19A), (0x1F200, 0x1F202), (0x1F210, 0x1F23B), (0x1F240, 0x1F248),
  (0x1F250, 0x1F251), (0x1F260, 0x1F265), (0x1F300, 0x1F320), (0x1F32D, 0x1F335),
  (0x1F337, 0x1F37C), (0x1F37E, 0x1F393), (0x1F3A0, 0x1F3CA), (0x1F3CF, 0x1F3D3),
  (0x1F3E0, 0x1F3F0), (0x1F3F4, 0x1F3F4), (0x1F3F8, 0x1F43E), (0x1F440, 0x1F440),
  (0x1F442, 0x1F4FC), (0x1F4FF, 0x1F53D), (0x1F54B, 0x1F54E), (0x1F550, 0x1F567),
  (0x1F57A, 0x1F57A), (0x1F595, 0x1F596), (0x1F5A4, 0x1F5A4), (0x1F5FB, 0x1F64F),
  (0x1F680, 0x1F6C5), (0x1F6CC, 0x1F6CC), (0x1F6D0, 0x1F6D2), (0x1F6D5, 0x1F6D7),
  (0x1F6DC, 0x1F6DF), (0x1F6EB, 0x1F6EC), (0x1F6F4, 0x1F6FC), (0x1F7E0, 0x1F7EB),
  (0x1F7F0, 0x1F7F0), (0x1F90C, 0x1F93A), (0x1F93C, 0x1F945), (0x1F947, 0x1F9FF),
  (0x1FA70, 0x1FA7C), (0x1FA80, 0x1FA88), (0x1FA90, 0x1FABD), (0x1FABF, 0x1FAC5),
  (0x1FACE, 0x1FADB), (0x1FAE0, 0x1FAE8), (0x1FAF0, 0x1FAF8), (0x20000, 0x2FFFD),
  (0x30000, 0x3FFFD)]

def emojiPresentationRanges : List (Nat × Nat) := [
  (0x231A, 0x231B), (0x23E9, 0x23EC), (0x23F0, 0x23F0), (0x23F3, 0x23F3),
  (0x25FD, 0x25FE), (0x2614, 0x2615), (0x2648, 0x2653), (0x267F, 0x267F),
  (0x2693, 0x2693), (0x26A1, 0x26A1), (0x26AA, 0x26AB), (0x26BD, 0x26BE),
  (0x26C4, 0x26C5), (0x26CE, 0x26CE), (0x26D4, 0x26D4), (0x26EA, 0x26EA),
  (0x26F2, 0x26F3), (0x26F5, 0x26F5), (0x26FA, 0x26FA), (0x26FD, 0x26FD),
  (0x2705, 0x2705), (0x270A, 0x270B), (0x2728, 0x2728), (0x274C, 0x274C),
  (0x274E, 0x274E), (0x2753, 0x2755), (0x2757, 0x2757), (0x2795, 0x2797),
  (0x27B0, 0x27B0), (0x27BF, 0x27BF), (0x2B1B, 0x2B1C), (0x2B50, 0x2B50),
  (0x2B55, 0x2B55), (0x1F004, 0x1F004), (0x1F0CF, 0x1F0CF), (0x1F18E, 0x1F18E),
  (0x1F191, 0x1F19A), (0x1F1E6, 0x1F1FF), (0x1F201, 0x1F201), (0x1F21A, 0x1F21A),
  (0x1F22F, 0x1F22F), (0x1F232, 0x1F236), (0x1F238, 0x1F23A), (0x1F250, 0x1F251),
  (0x1F300, 0x1F320), (0x1F32D, 0x1F335), (0x1F337, 0x1F37C), (0x1F37E, 0x1F393),
  (0x1F3A0, 0x1F3CA), (0x1F3CF, 0x1F3D3), (0x1F3E0, 0x1F3F0), (0x1F3F4, 0x1F3F4),
  (0x1F3F8, 0x1F43E), (0x1F440, 0x1F440), (0x1F442, 0x1F4FC), (0x1F4FF, 0x1F53D),
  (0x1F54B, 0x1F54E), (0x1F550, 0x1F567), (0x1F57A, 0x1F57A), (0x1F595, 0x1F596),
  (0x1F5A4, 0x1F5A4), (0x1F5FB, 0x1F64F), (0x1F680, 0x1F6C5), (0x1F6CC, 0x1F6CC),
  (0x1F6D0, 0x1F6D2), (0x1F6D5, 0x1F6D7), (0x1F6DC, 0x1F6DF), (0x1F6EB, 0x1F6EC),
  (0x1F6F4, 0x1F6FC), (0x1F7E0, 0x1F7EB), (0x1F7F0, 0x1F7F0), (0x1F90C, 0x1F93A),
  (0x1F93C, 0x1F945), (0x1F947, 0x1F9FF), (0x1FA70, 0x1FA7C), (0x1FA80, 0x1FA88),
  (0x1FA90, 0x1FABD), (0x1FABF, 0x1FAC5), (0x1FACE, 0x1FADB), (0x1FAE0, 0x1FAE8),
  (0x1FAF0, 0x1FAF8)]

/-- The width of one character of break class `k`. -/
def charWidth (c : Char) (k : BreakClass) : Nat :=
  match k with
  | .control | .cr | .lf | .extend | .zwj => 0
  | .regional => 2
  | .pictographic => if inRanges emojiPresentationRanges c.toNat then 2 else 1
  | _ =>
    if c.toNat = 0x2E3A then 3 else if c.toNat = 0x2E3B then 4
    else if inRanges wideRanges c.toNat then 2 else 1

def clusterWidth : List Char → Nat
  | [] => 0
  | c :: cs =>
    let k := breakClass c
    cs.foldl (fun w d =>
      if k = .pictographic then
        if d.toNat = 0xFE0E then 1 else if d.toNat = 0xFE0F then 2 else w
      else if k = .regional ∨ k = .l then w
      else w + charWidth d (breakClass d)) (charWidth c k)

/-- Where a terminal stands in reading escape sequences: in plain text, after `ESC`, in a
control sequence (`ESC [`), a device-control string (`ESC P`), an operating-system command
(`ESC ]`) or another string (`ESC X`, `ESC ^`, `ESC _`). -/
inductive SequenceState where
  | ground | escape | escapeIntermediate
  | csiEntry | csiParam | csiIntermediate | csiIgnore
  | dcsEntry | dcsParam | dcsIntermediate | dcsString | dcsIgnore
  | oscString | otherString
deriving DecidableEq, Repr

def SequenceState.keepsText : SequenceState → Bool
  | .dcsString | .dcsIgnore | .oscString => true
  | _ => false

def SequenceState.next (s : SequenceState) (b : Nat) : SequenceState × Bool :=
  let c0 := b < 0x20
  if b = 0x18 ∨ b = 0x1A then (.ground, false)
  else if b = 0x1B then (.escape, false)
  else match s with
    | .ground => (.ground, 0x20 ≤ b)
    | .escape =>
      if c0 ∨ b = 0x7F then (.escape, false)
      else if b < 0x30 then (.escapeIntermediate, false)
      else if b = 0x5B then (.csiEntry, false)
      else if b = 0x5D then (.oscString, false)
      else if b = 0x50 then (.dcsEntry, false)
      else if b = 0x58 ∨ b = 0x5E ∨ b = 0x5F then (.otherString, false)
      else (.ground, false)
    | .escapeIntermediate =>
      if c0 ∨ b < 0x30 ∨ b = 0x7F then (.escapeIntermediate, false) else (.ground, false)
    | .csiEntry =>
      if c0 ∨ b = 0x7F then (.csiEntry, false)
      else if b < 0x30 then (.csiIntermediate, false)
      else if b < 0x40 then (.csiParam, false)
      else (.ground, false)
    | .csiParam =>
      if c0 ∨ b = 0x7F ∨ (0x30 ≤ b ∧ b < 0x3C) then (.csiParam, false)
      else if b < 0x30 then (.csiIntermediate, false)
      else if b < 0x40 then (.csiIgnore, false)
      else (.ground, false)
    | .csiIntermediate =>
      if c0 ∨ b = 0x7F ∨ b < 0x30 then (.csiIntermediate, false)
      else if b < 0x40 then (.csiIgnore, false)
      else (.ground, false)
    | .csiIgnore => if b < 0x40 ∨ b = 0x7F then (.csiIgnore, false) else (.ground, false)
    | .dcsEntry =>
      if c0 ∨ b = 0x7F then (.dcsEntry, false)
      else if b < 0x30 then (.dcsIntermediate, false)
      else if b < 0x40 then (.dcsParam, false)
      else (.dcsString, false)
    | .dcsParam =>
      if c0 ∨ b = 0x7F ∨ (0x30 ≤ b ∧ b < 0x3C) then (.dcsParam, false)
      else if b < 0x30 then (.dcsIntermediate, false)
      else if b < 0x40 then (.dcsIgnore, false)
      else (.dcsString, false)
    | .dcsIntermediate =>
      if c0 ∨ b = 0x7F ∨ b < 0x30 then (.dcsIntermediate, false)
      else if b < 0x40 then (.dcsIgnore, false)
      else (.dcsString, false)
    | .dcsString => (.dcsString, false)
    | .dcsIgnore => (.dcsIgnore, false)
    | .oscString => if b = 0x07 then (.ground, false) else (.oscString, false)
    | .otherString => (.otherString, false)

def widthFrom (s : SequenceState) : List Char → Nat
  | [] => 0
  | c :: cs =>
    if c.toNat < 0x80 then
      let (next, shows) := s.next c.toNat
      (if shows then 1 else 0) + widthFrom next cs
    else if s.keepsText then widthFrom s cs
    else
      let split := firstCluster (c :: cs)
      clusterWidth split.1 + widthFrom .ground split.2
termination_by cs => cs.length
decreasing_by
  all_goals simp only [List.length_cons]
  all_goals first
    | omega
    | (have h := firstCluster_rest_length c cs; omega)

/-- The number of terminal columns a text takes. -/
def width (s : String) : Nat := widthFrom .ground s.toList

end MiniLox.Text
