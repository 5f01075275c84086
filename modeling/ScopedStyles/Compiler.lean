import ScopedStyles.Text.Replace

namespace ScopedStyles

abbrev Compiler := String → String → String

structure CompilerCall where
  selector : String
  body : String
  deriving DecidableEq, Repr

namespace Compiler

def stand : String := "__BEMED__"

def wrap : Compiler := fun selector body =>
  selector ++ "\x7b" ++ body ++ "\x7d"

def precompiled : Compiler := fun selector body =>
  Text.replaceAll stand selector body

end Compiler

end ScopedStyles
