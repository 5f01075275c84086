import ScopedStyles.Page.Renderer
import ScopedStyles.Page.StyleTag
import ScopedStyles.Stylesheet.Compiler
import ScopedStyles.Template
import ScopedStyles.Text.Blank

namespace ScopedStyles

abbrev CssTag := Renderer

structure Description where
  text : String
  sourceMap : String
  tag : CssTag

namespace CssTag

def precompiled (mode : Mode) : CssTag :=
  ⟨Compiler.precompiled, mode⟩

def runtime (mode : Mode) : CssTag :=
  ⟨Stylesheet.compiler mode.isProduction, mode⟩

def describe (tag : CssTag) (text sourceMap : String) : Description :=
  ⟨text, sourceMap, tag⟩

def template (tag : CssTag) (literals values : List String) : Description :=
  ⟨Template.join literals values, "", tag⟩

end CssTag

namespace Description

def asCss (description : Description) (selector : String) : String :=
  Text.trim (description.tag.compiler selector description.text ++ "\n" ++ description.sourceMap)

def asStyleTag (description : Description) (selector : String) : StyleTag :=
  ⟨description.asCss selector, []⟩

def chunk (description : Description) (className : String) : Chunk :=
  ⟨className, description.text, description.sourceMap⟩

def render (description : Description) (element : String) (chunks : List Chunk) (place : Place) :
    Rendered × Renderer.Pass :=
  description.tag.render element chunks place

end Description

end ScopedStyles
