/-!
# UTF-8 bytes

`bytesText` reads bytes as UTF-8 text and never fails: a byte that starts no valid sequence
(a stray continuation byte, an overlong form, a surrogate, a code point past `U+10FFFF` or a
sequence cut short) reads as one `U+FFFD` and reading goes on at the next byte. So invalid
bytes show in the text one replacement character each. `textBytes` is the other way.
-/

set_option autoImplicit false

namespace MiniLox.Text

def contIn (lo hi : Nat) (b : Nat) : Bool := lo ≤ b && b ≤ hi

/-- The first character of UTF-8 bytes and how many bytes it takes; a byte that starts no valid
sequence reads as `U+FFFD` and takes one byte. -/
def utf8Step : List Nat → Char × Nat
  | [] => (Char.ofNat 0xFFFD, 1)
  | b0 :: rest =>
    let bad := (Char.ofNat 0xFFFD, 1)
    if b0 < 0x80 then (Char.ofNat b0, 1)
    else if 0xC2 ≤ b0 && b0 ≤ 0xDF then
      match rest with
      | b1 :: _ => if contIn 0x80 0xBF b1 then (Char.ofNat ((b0 % 32) * 64 + b1 % 64), 2) else bad
      | [] => bad
    else if 0xE0 ≤ b0 && b0 ≤ 0xEF then
      let lo := if b0 = 0xE0 then 0xA0 else 0x80
      let hi := if b0 = 0xED then 0x9F else 0xBF
      match rest with
      | b1 :: b2 :: _ =>
        if contIn lo hi b1 && contIn 0x80 0xBF b2 then
          (Char.ofNat (((b0 % 16) * 64 + b1 % 64) * 64 + b2 % 64), 3)
        else bad
      | _ => bad
    else if 0xF0 ≤ b0 && b0 ≤ 0xF4 then
      let lo := if b0 = 0xF0 then 0x90 else 0x80
      let hi := if b0 = 0xF4 then 0x8F else 0xBF
      match rest with
      | b1 :: b2 :: b3 :: _ =>
        if contIn lo hi b1 && contIn 0x80 0xBF b2 && contIn 0x80 0xBF b3 then
          (Char.ofNat ((((b0 % 8) * 64 + b1 % 64) * 64 + b2 % 64) * 64 + b3 % 64), 4)
        else bad
      | _ => bad
    else bad

/-- Reads bytes as UTF-8 text, each byte that starts no valid sequence as `U+FFFD`. -/
def bytesText (bs : List Nat) : String :=
  String.ofList (go bs.length bs)
where
  go : Nat → List Nat → List Char
    | 0, _ => []
    | _, [] => []
    | fuel + 1, bs => let (c, n) := utf8Step bs; c :: go fuel (bs.drop n)

def textBytes (s : String) : List Nat := s.toUTF8.toList.map UInt8.toNat

end MiniLox.Text
