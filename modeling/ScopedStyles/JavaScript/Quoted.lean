import ScopedStyles.Text.Hex

namespace ScopedStyles.JavaScript.Quoted

-- Half of a surrogate pair is no character of a text, so its escape is kept as it is.
def isSurrogate (text : List Char) : Bool :=
  let text := match text with
    | '\x7b' :: rest => rest
    | _ => text
  match text with
  | a :: b :: c :: d :: _ =>
    (a = 'D' || a = 'd') && [b, c, d].all Text.isHexDigit &&
      0xd800 ≤ Text.hexNumber [a, b, c, d]
  | _ => false

def escape (quote c : Char) (rest : List Char) : List Char :=
  let n := c.toNat
  if n = 0 then
    if (rest.head?.map Char.isDigit).getD false then ['\\', 'x', '0', '0'] else ['\\', '0']
  else if n = 0x8 then ['\\', 'b']
  else if n = 0xc then ['\\', 'f']
  else if c = '\n' then ['\\', 'n']
  else if c = '\r' then ['\\', 'r']
  else if n = 0xb then ['\\', 'v']
  else if c = '\t' then ['\t']
  else if c = '\\' then
    match rest with
    | 'u' :: after => if isSurrogate after then ['\\'] else ['\\', '\\']
    | _ => ['\\', '\\']
  else if c = quote then ['\\', c]
  else if n < 0x20 then ['\\', 'x', Text.hexDigit (n / 16), Text.hexDigit (n % 16)]
  else if n = 0x2028 then "\\u2028".toList
  else if n = 0x2029 then "\\u2029".toList
  else if n = 0xfeff then "\\uFEFF".toList
  else [c]

def escapeAll (quote : Char) : List Char → List Char
  | [] => []
  | c :: rest => escape quote c rest ++ escapeAll quote rest

def write (text : String) : String :=
  let chars := text.toList
  let quote := if chars.count '"' > chars.count '\'' then '\'' else '"'
  String.ofList (quote :: escapeAll quote chars ++ [quote])

end ScopedStyles.JavaScript.Quoted
