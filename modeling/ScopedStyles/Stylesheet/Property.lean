import ScopedStyles.Stylesheet.Property.Animation
import ScopedStyles.Stylesheet.Property.Background
import ScopedStyles.Stylesheet.Property.Border
import ScopedStyles.Stylesheet.Property.BorderImage
import ScopedStyles.Stylesheet.Property.Display
import ScopedStyles.Stylesheet.Property.Flex
import ScopedStyles.Stylesheet.Property.Font
import ScopedStyles.Stylesheet.Property.Grid
import ScopedStyles.Stylesheet.Property.Mask
import ScopedStyles.Stylesheet.Property.Names
import ScopedStyles.Stylesheet.Property.Shorthand
import ScopedStyles.Stylesheet.Property.Sides
import ScopedStyles.Stylesheet.Property.Single
import ScopedStyles.Stylesheet.Property.Size
import ScopedStyles.Stylesheet.Property.TextDecoration
import ScopedStyles.Stylesheet.Property.Transform
import ScopedStyles.Stylesheet.Property.Transition

namespace ScopedStyles.Stylesheet.Property

def read (name : String) (spelling : Spelling) : Reader Setting :=
  let families : List (List String × (String → Reader Setting)) := [
    (Background.properties, Background.read), (Border.properties, Border.read),
    (BorderImage.properties, BorderImage.read), (BorderRadius.properties, BorderRadius.read),
    (Flex.properties, Flex.read), (Alignment.properties, Alignment.read),
    (Grid.properties, Grid.read), (Size.properties, Size.read), (Font.properties, Font.read),
    (TextDecoration.properties, TextDecoration.read), (Transition.properties, Transition.read),
    (Animation.properties, Animation.read), (Overflow.properties, Overflow.read),
    (Transform.properties, Transform.read), (["box-shadow"], fun _ => Shadow.readAll true),
    (["display"], fun _ => (Setting.ofValue <| .ofText ·.write) <$> Display.read),
    (["position"], fun _ => Setting.ofValue <$> Placement.read),
    (Mask.properties, fun name => Mask.read name spelling)] ++
    Shorthand.all.map (fun shorthand => (shorthand.properties, Shorthand.read)) ++
    Sides.all.map (fun sides => (sides.properties, sides.read))
  match families.find? (·.1.contains name) with
  | some (_, read) => read name
  | none => Single.read name

end ScopedStyles.Stylesheet.Property
