import ScopedStyles.JavaScript.Cursor
import ScopedStyles.JavaScript.Numeral
import ScopedStyles.JavaScript.Problem

namespace ScopedStyles.JavaScript

structure Escape where
  value : List Char
  rest : List Char
  isOctal : Bool := false

namespace Escape

open Numeral (isOctalDigit)

def ofCode (code : Nat) (spelling rest : List Char) : Escape :=
  if 0xd800 ≤ code ∧ code ≤ 0xdfff then ⟨spelling, rest, false⟩
  else ⟨[Char.ofNat code], rest, false⟩

def readUnicode : List Char → Except Problem Escape
  | '\x7b' :: text =>
    let digits := text.takeWhile Text.isHexDigit
    let code := Text.hexNumber digits
    if digits.isEmpty then .error (.badEscape "1-6 hex characters")
    else if code > 0x10ffff then
      .error (.badEscape "1-6 hex characters in the range 0 to 10FFFF.")
    else
      match text.dropWhile Text.isHexDigit with
      | '\x7d' :: rest => .ok (ofCode code ("\\u\x7b".toList ++ digits ++ ['\x7d']) rest)
      | _ => .error .invalidUnicodeEscape
  | text =>
    let digits := text.take 4
    if digits.length = 4 ∧ digits.all Text.isHexDigit then
      .ok (ofCode (Text.hexNumber digits) ("\\u".toList ++ digits) (text.drop 4))
    else .error (.badEscape "4 hex characters")

def readOctal (text : List Char) : Escape :=
  let digits := (text.takeWhile isOctalDigit).take 3
  let value := fun (ds : List Char) => ds.foldl (fun v c => v * 8 + (c.toNat - '0'.toNat)) 0
  let digits := if value digits > 255 then digits.take 2 else digits
  ⟨[Char.ofNat (value digits)], text.drop digits.length, true⟩

def read : List Char → Except Problem Escape
  | [] => .ok ⟨[], [], false⟩
  | 'n' :: rest => .ok ⟨['\n'], rest, false⟩
  | 'r' :: rest => .ok ⟨['\r'], rest, false⟩
  | 't' :: rest => .ok ⟨['\t'], rest, false⟩
  | 'b' :: rest => .ok ⟨['\x08'], rest, false⟩
  | 'v' :: rest => .ok ⟨['\x0b'], rest, false⟩
  | 'f' :: rest => .ok ⟨['\x0c'], rest, false⟩
  | '\r' :: '\n' :: rest => .ok ⟨[], rest, false⟩
  | 'x' :: rest =>
    let digits := rest.take 2
    if digits.length = 2 ∧ digits.all Text.isHexDigit then
      .ok ⟨[Char.ofNat (Text.hexNumber digits)], rest.drop 2, false⟩
    else .error (.badEscape "2 hex characters")
  | 'u' :: rest => readUnicode rest
  | c :: rest =>
    if isLineEnd c then .ok ⟨[], rest, false⟩
    else if c = '0' ∧ !(rest.head?.map isOctalDigit).getD false then .ok ⟨['\x00'], rest, false⟩
    else if isOctalDigit c then .ok (readOctal (c :: rest))
    else .ok ⟨[c], rest, false⟩

end Escape

end ScopedStyles.JavaScript
