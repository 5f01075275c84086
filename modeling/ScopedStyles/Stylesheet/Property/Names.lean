import ScopedStyles.Stylesheet.Browsers

namespace ScopedStyles.Stylesheet

abbrev PropertyName := String

namespace PropertyName

def sideNames : List String :=
  ["top", "bottom", "left", "right", "block-start", "block-end", "inline-start", "inline-end",
    "block", "inline"]

def borderNames : List PropertyName :=
  ("" :: sideNames.map ("-" ++ ·)).flatMap fun side =>
    ["", "-width", "-style", "-color"].map fun aspect => "border" ++ side ++ aspect

def plainOnly : List PropertyName :=
  ["background-color", "background-image", "background-position-x", "background-position-y",
    "background-position", "background-size", "background-repeat", "background-attachment",
    "background-origin", "background", "opacity", "color", "display", "visibility", "width",
    "height", "min-width", "min-height", "max-width", "max-height", "block-size", "inline-size",
    "min-block-size", "min-inline-size", "max-block-size", "max-inline-size", "aspect-ratio",
    "overflow", "overflow-x", "overflow-y", "position", "top", "bottom", "left", "right",
    "border-spacing", "border-image-source", "border-image-outset", "border-image-repeat",
    "border-image-width", "border-image-slice", "border-start-start-radius",
    "border-start-end-radius", "border-end-start-radius", "border-end-end-radius", "outline",
    "outline-color", "outline-style", "outline-width", "place-content", "justify-self",
    "place-self", "justify-items", "place-items", "row-gap", "column-gap", "gap",
    "grid-template-columns", "grid-template-rows", "grid-auto-columns", "grid-auto-rows",
    "grid-auto-flow", "grid-template-areas", "grid-template", "grid", "grid-row-start",
    "grid-row-end", "grid-column-start", "grid-column-end", "grid-row", "grid-column", "grid-area",
    "font-weight", "font-size", "font-stretch", "font-family", "font-style", "font-variant-caps",
    "line-height", "font", "vertical-align", "font-palette", "animation-composition",
    "animation-timeline", "animation-range-start", "animation-range-end", "animation-range",
    "transform-box", "translate", "rotate", "scale", "text-transform", "white-space", "word-break",
    "line-break", "overflow-wrap", "word-wrap", "text-align", "text-justify", "word-spacing",
    "letter-spacing", "text-indent", "text-decoration-thickness", "text-shadow", "direction",
    "unicode-bidi", "resize", "cursor", "caret-color", "caret-shape", "caret", "accent-color",
    "list-style-type", "list-style-image", "list-style-position", "list-style", "marker-side",
    "fill", "fill-rule", "fill-opacity", "stroke", "stroke-opacity", "stroke-width",
    "stroke-linecap", "stroke-linejoin", "stroke-miterlimit", "stroke-dasharray",
    "stroke-dashoffset", "marker-start", "marker-mid", "marker-end", "marker",
    "color-interpolation", "color-interpolation-filters", "color-rendering", "shape-rendering",
    "text-rendering", "image-rendering", "clip-rule", "mask-mode", "mask-composite", "mask-type",
    "mask-border-source", "mask-border-mode", "mask-border-slice", "mask-border-width",
    "mask-border-outset", "mask-border-repeat", "mask-border", "z-index", "container-type",
    "container-name", "container", "view-transition-name", "view-transition-class",
    "view-transition-group", "color-scheme", "all"] ++
  (["margin", "padding", "scroll-margin", "scroll-padding"].flatMap fun box =>
    box :: sideNames.map fun side => box ++ "-" ++ side) ++
  "inset" :: (sideNames.drop 4).map ("inset-" ++ ·) ++ borderNames

def marked : List (List Spelling × List PropertyName) := [
  ([.webkit, .moz, .plain],
    ["background-clip", "box-shadow", "box-sizing", "border-radius", "border-top-left-radius",
      "border-top-right-radius", "border-bottom-left-radius", "border-bottom-right-radius",
      "transform-style", "backface-visibility", "perspective", "perspective-origin",
      "text-decoration-line", "text-decoration-style", "text-decoration-color",
      "text-decoration"]),
  ([.webkit, .moz, .opera, .plain],
    ["border-image", "animation-name", "animation-duration", "animation-timing-function",
      "animation-iteration-count", "animation-direction", "animation-play-state",
      "animation-delay", "animation-fill-mode", "animation"]),
  ([.webkit, .ms, .plain], ["flex-direction", "flex-wrap", "flex-flow", "flex"]),
  ([.webkit, .plain],
    ["flex-grow", "flex-shrink", "flex-basis", "order", "align-content", "justify-content",
      "align-self", "align-items", "text-decoration-skip-ink", "text-emphasis-style",
      "text-emphasis-color", "text-emphasis", "text-emphasis-position", "box-decoration-break",
      "clip-path", "mask-image", "mask-repeat", "mask-position", "mask-clip", "mask-origin",
      "mask-size", "mask", "filter", "backdrop-filter", "print-color-adjust"]),
  ([.webkit, .moz],
    ["box-orient", "box-direction", "box-ordinal-group", "box-align", "box-flex", "box-pack",
      "box-lines"]),
  ([.webkit],
    ["box-flex-group", "mask-source-type", "mask-box-image-source", "mask-box-image-slice",
      "mask-box-image-width", "mask-box-image-outset", "mask-box-image-repeat", "mask-box-image"]),
  ([.ms],
    ["flex-pack", "flex-order", "flex-align", "flex-item-align", "flex-line-pack", "flex-positive",
      "flex-negative", "flex-preferred-size"]),
  ([.webkit, .moz, .ms, .plain],
    ["transition-property", "transition-duration", "transition-delay",
      "transition-timing-function", "transition", "hyphens", "text-size-adjust", "user-select",
      "appearance"]),
  ([.webkit, .moz, .ms, .opera, .plain], ["transform", "transform-origin"]),
  ([.opera, .plain], ["text-overflow"]),
  ([.moz, .opera, .plain], ["tab-size"]),
  ([.moz, .plain], ["text-align-last"])]

def spellings (name : PropertyName) : List Spelling :=
  if name == "mask-composite" then [.webkit, .plain]
  else if plainOnly.contains name then [.plain]
  else ((marked.find? (·.2.contains name)).map Prod.fst).getD []

def ofText? (text : String) : Option (PropertyName × Spelling) :=
  let (spelling, name) := Spelling.split text.toLower
  if (spellings name).contains spelling then some (name, spelling) else none

def hasMarks (name : PropertyName) : Bool :=
  (spellings name).any (· != .plain)

end PropertyName

end ScopedStyles.Stylesheet
