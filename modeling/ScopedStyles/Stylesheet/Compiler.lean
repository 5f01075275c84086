import ScopedStyles.Compiler
import ScopedStyles.Marker
import ScopedStyles.Stylesheet.Rule.Printer
import ScopedStyles.Stylesheet.Rule.Reader
import ScopedStyles.Stylesheet.Rule.Shortened

namespace ScopedStyles.Stylesheet

def compilerFor (browsers : Browsers) : Compiler := fun selector body =>
  let rules := Rule.ofText (Compiler.wrap selector body)
  Rule.writeSheet browsers <|
    if Marker.occursIn body then rules else Rule.shortenSheet browsers rules

def compiler (forOldBrowsers : Bool) : Compiler :=
  compilerFor (if forOldBrowsers then .old else .recent)

end ScopedStyles.Stylesheet
