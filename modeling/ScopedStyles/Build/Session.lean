import ScopedStyles.Compiler
import ScopedStyles.Failure
import ScopedStyles.Marker

namespace ScopedStyles

structure NameRecord where
  file : String
  line : UInt64
  deriving DecidableEq, Repr

structure Session where
  names : List (String × NameRecord) := []
  files : List String := []
  cache : List (String × List String) := []
  deriving DecidableEq, Repr, Inhabited

namespace Session

def name? (session : Session) (name : String) : Option NameRecord :=
  session.names.lookup name

def register (session : Session) (name file : String) (line : UInt64) : Except Failure Session :=
  match session.name? name with
  | some record => .error (.duplicateName name record.file record.line)
  | none => .ok { session with names := session.names ++ [(name, ⟨file, line⟩)] }

def hasSeen (session : Session) (file : String) : Bool :=
  session.files.contains file

def markSeen (session : Session) (file : String) : Session :=
  if session.hasSeen file then session else { session with files := session.files ++ [file] }

def cached? (session : Session) (source : String) : Option (List String) :=
  session.cache.lookup source

def compile (session : Session) (compiler : Compiler) (source : String) :
    List String × Session × List CompilerCall :=
  match session.cached? source with
  | some pieces => (pieces, session, [])
  | none =>
    let pieces := Marker.split (compiler Compiler.stand source)
    (pieces, { session with cache := session.cache ++ [(source, pieces)] },
      [⟨Compiler.stand, source⟩])

end Session

end ScopedStyles
