import ScopedStyles.Compiler
import ScopedStyles.Environment
import ScopedStyles.Page.Place

namespace ScopedStyles

structure Chunk where
  className : String
  css : String
  sourceMap : String := ""
  deriving DecidableEq, Repr

structure InlineStyle where
  key : String
  css : String
  hasTestId : Bool
  removed : Bool := false
  deriving DecidableEq, Repr

def InlineStyle.html (style : InlineStyle) : String :=
  if style.removed then ""
  else if style.hasTestId then
    "<style data-testid=\"bemed-style\">" ++ style.css ++ "</style>"
  else "<style>" ++ style.css ++ "</style>"

structure Rendered where
  style : Option InlineStyle
  element : String
  deriving DecidableEq, Repr

namespace Rendered

def html (rendered : Rendered) : String :=
  (rendered.style.map InlineStyle.html).getD "" ++ rendered.element

def mount (rendered : Rendered) (place : Place) : Rendered × Place :=
  match rendered.style, place with
  | some style, .browser b =>
    ({ rendered with style := some { style with removed := true } },
      .browser b.finishFirstRender)
  | _, _ => (rendered, place)

end Rendered

structure Renderer where
  compiler : Compiler
  mode : Mode

namespace Renderer

def allowsReinjection (renderer : Renderer) (place : Place) : Bool :=
  renderer.mode == .development && place.isBrowser && place.firstRenderDone

def selector (className : String) : String :=
  "." ++ className

structure Pass where
  place : Place
  styled : List (String × String) := []
  injected : List Injection := []
  calls : List CompilerCall := []

def step (renderer : Renderer) (pass : Pass) (chunk : Chunk) : Pass :=
  if pass.place.contains chunk.className && !renderer.allowsReinjection pass.place then pass
  else
    let css := renderer.compiler (selector chunk.className) chunk.css
    { place := pass.place.mark chunk.className
      styled := pass.styled ++ [(chunk.className, css)]
      injected :=
        if pass.place.isBrowser then pass.injected ++ [⟨chunk.className, css, chunk.sourceMap⟩]
        else pass.injected
      calls := pass.calls ++ [⟨selector chunk.className, chunk.css⟩] }

def run (renderer : Renderer) (chunks : List Chunk) (place : Place) : Pass :=
  chunks.foldl renderer.step { place }

def inlineStyle (renderer : Renderer) (styled : List (String × String)) : InlineStyle where
  key := String.intercalate "," ((styled.map Prod.fst).mergeSort (· ≤ ·))
  css := String.intercalate "\n" (styled.map Prod.snd)
  hasTestId := !renderer.mode.isProduction

def render (renderer : Renderer) (element : String) (chunks : List Chunk) (place : Place) :
    Rendered × Pass :=
  let pass := renderer.run chunks place
  let style :=
    if pass.styled.isEmpty || pass.place.firstRenderDone then none
    else some (renderer.inlineStyle pass.styled)
  (⟨style, element⟩, pass)

end Renderer

end ScopedStyles
