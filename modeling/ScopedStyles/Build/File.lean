import ScopedStyles.Build.Expansion
import ScopedStyles.JavaScript.Grammar.Module
import ScopedStyles.JavaScript.Printer

namespace ScopedStyles

open JavaScript

structure Outcome where
  program : Program
  session : Session
  calls : List CompilerCall
  failure : Option Failure

namespace Job

def run (job : Job) (session : Session) (program : Program) : Outcome :=
  let (program, state) := Expansion.visitProgram job program { session }
  ⟨program, state.session, state.calls, state.failure⟩

end Job

namespace Source

def ofText (name content : String) : Source :=
  ⟨name, String.ofList ((Text.dropFront? ['\ufeff'] content.toList).getD content.toList)⟩

def program (source : Source) (isModule : Bool) : Except Failure Program :=
  match Program.ofText isModule source.content with
  | .ok program => .ok program
  | .error problem => .error (.unreadable source.name problem.message)

end Source

def buildFile (settings : Settings) (session : Session) (file content : String) :
    Except Failure String × Session × List CompilerCall :=
  let source := Source.ofText file content
  match source.program true with
  | .error failure => (.error failure, session, [])
  | .ok program =>
    let outcome := Job.run ⟨settings, some file, some source⟩ session program
    match outcome.failure with
    | some failure => (.error failure, outcome.session, outcome.calls)
    | none => (.ok outcome.program.print, outcome.session, outcome.calls)

end ScopedStyles
