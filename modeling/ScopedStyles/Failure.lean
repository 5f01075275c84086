namespace ScopedStyles

inductive Failure where
  | duplicateName (name file : String) (line : UInt64)
  | unreadable (file detail : String)
  | unwritable (detail : String)
  deriving DecidableEq, Repr

def Failure.message : Failure → String
  | .duplicateName name file line =>
    "bemed component name \"" ++ name ++ "\" already defined in " ++ file ++ " line " ++
      toString line.toNat
  | .unreadable file detail => "failed to parse " ++ file ++ ": " ++ detail
  | .unwritable detail => "failed to emit transformed module: " ++ detail

end ScopedStyles
