import ScopedStyles.Stylesheet.Quantity

namespace ScopedStyles.Stylesheet.Color

inductive Space where
  | rgb
  | hsl
  | hwb
  | lab
  | lch
  | oklab
  | oklch
  | srgb
  | srgbLinear
  | displayP3
  | a98
  | prophoto
  | rec2020
  | xyzD50
  | xyzD65
  deriving DecidableEq, Repr, Inhabited

structure Coordinates where
  a : Float32
  b : Float32
  c : Float32
  alpha : Float32
  deriving BEq, Inhabited

namespace Coordinates

def map (f : Float32 → Float32) (p : Coordinates) : Coordinates :=
  { p with a := f p.a, b := f p.b, c := f p.c }

def present (value : Float32) : Float32 :=
  if value.isNaN then 0 else value

def resolve (p : Coordinates) : Coordinates :=
  ⟨present p.a, present p.b, present p.c, present p.alpha⟩

def hasMissing (p : Coordinates) : Bool :=
  p.a.isNaN || p.b.isNaN || p.c.isNaN || p.alpha.isNaN

end Coordinates

namespace Space

structure Matrix where
  first : Float32 × Float32 × Float32
  second : Float32 × Float32 × Float32
  third : Float32 × Float32 × Float32

def Matrix.apply (m : Matrix) (p : Coordinates) : Coordinates :=
  let row (r : Float32 × Float32 × Float32) : Float32 := r.1 * p.a + r.2.1 * p.b + r.2.2 * p.c
  { p with a := row m.first, b := row m.second, c := row m.third }

def srgbToXyz : Matrix where
  first := (0.4123907992659595, 0.35758433938387796, 0.1804807884018343)
  second := (0.21263900587151036, 0.7151686787677559, 0.07219231536073371)
  third := (0.01933081871559185, 0.11919477979462599, 0.9505321522496606)

def xyzToSrgb : Matrix where
  first := (3.2409699419045213, -1.5373831775700935, -0.4986107602930033)
  second := (-0.9692436362808798, 1.8759675015077206, 0.04155505740717561)
  third := (0.05563007969699361, -0.20397695888897657, 1.0569715142428786)

def p3ToXyz : Matrix where
  first := (0.4865709486482162, 0.26566769316909306, 0.1982172852343625)
  second := (0.2289745640697488, 0.6917385218365064, 0.079286914093745)
  third := (0, 0.04511338185890264, 1.043944368900976)

def xyzToP3 : Matrix where
  first := (2.493496911941425, -0.9313836179191239, -0.40271078445071684)
  second := (-0.8294889695615747, 1.7626640603183463, 0.023624685841943577)
  third := (0.03584583024378447, -0.07617238926804182, 0.9568845240076872)

def a98ToXyz : Matrix where
  first := (0.5766690429101305, 0.1855582379065463, 0.1882286462349947)
  second := (0.29734497525053605, 0.6273635662554661, 0.07529145849399788)
  third := (0.02703136138641234, 0.07068885253582723, 0.9913375368376388)

def xyzToA98 : Matrix where
  first := (2.0415879038107465, -0.5650069742788596, -0.34473135077832956)
  second := (-0.9692436362808795, 1.8759675015077202, 0.04155505740717557)
  third := (0.013444280632031142, -0.11836239223101838, 1.0151749943912054)

def prophotoToXyz : Matrix where
  first := (0.7977604896723027, 0.13518583717574031, 0.0313493495815248)
  second := (0.2880711282292934, 0.7118432178101014, 0.00008565396060525902)
  third := (0, 0, 0.8251046025104601)

def xyzToProphoto : Matrix where
  first := (1.3457989731028281, -0.25558010007997534, -0.05110628506753401)
  second := (-0.5446224939028347, 1.5082327413132781, 0.02053603239147973)
  third := (0, 0, 1.2119675456389454)

def rec2020ToXyz : Matrix where
  first := (0.6369580483012914, 0.14461690358620832, 0.1688809751641721)
  second := (0.2627002120112671, 0.6779980715188708, 0.05930171646986196)
  third := (0, 0.028072693049087428, 1.060985057710791)

def xyzToRec2020 : Matrix where
  first := (1.7166511879712674, -0.35567078377639233, -0.25336628137365974)
  second := (-0.6666843518324892, 1.6164812366349395, 0.01576854581391113)
  third := (0.017639857445310783, -0.042770613257808524, 0.9421031212354738)

def d65ToD50 : Matrix where
  first := (1.0479298208405488, 0.022946793341019088, -0.05019222954313557)
  second := (0.029627815688159344, 0.990434484573249, -0.01707382502938514)
  third := (-0.009243058152591178, 0.015055144896577895, 0.7518742899580008)

def d50ToD65 : Matrix where
  first := (0.9554734527042182, -0.023098536874261423, 0.0632593086610217)
  second := (-0.028369706963208136, 1.0099954580058226, 0.021041398966943008)
  third := (0.012314001688319899, -0.020507696433477912, 1.3303659366080753)

def xyzToCones : Matrix where
  first := (0.8190224432164319, 0.3619062562801221, -0.12887378261216414)
  second := (0.0329836671980271, 0.9292868468965546, 0.03614466816999844)
  third := (0.048177199566046255, 0.26423952494422764, 0.6335478258136937)

def conesToXyz : Matrix where
  first := (1.2268798733741557, -0.5578149965554813, 0.28139105017721583)
  second := (-0.04057576262431372, 1.1122868293970594, -0.07171106666151701)
  third := (-0.07637294974672142, -0.4214933239627914, 1.5869240244272418)

def conesToOklab : Matrix where
  first := (0.2104542553, 0.7936177850, -0.0040720468)
  second := (1.9779984951, -2.4285922050, 0.4505937099)
  third := (0.0259040371, 0.7827717662, -0.8086757660)

def oklabToCones : Matrix where
  first := (0.99999999845051981432, 0.39633779217376785678, 0.21580375806075880339)
  second := (1.0000000088817607767, -0.1055613423236563494, -0.063854174771705903402)
  third := (1.0000000546724109177, -0.089484182094965759684, -1.2914855378640917399)

def odd (curve : Float32 → Float32) (value : Float32) : Float32 :=
  if value < 0 then -curve value.abs else curve value.abs

def linearOfSrgb (value : Float32) : Float32 :=
  if value.abs < 0.04045 then value / 12.92
  else odd (fun size => Float32.pow ((size + 0.055) / 1.055) 2.4) value

def srgbOfLinear (value : Float32) : Float32 :=
  if value.abs > 0.0031308 then odd (fun size => 1.055 * Float32.pow size (1 / 2.4) - 0.055) value
  else 12.92 * value

def linearOfA98 : Float32 → Float32 :=
  odd fun size => Float32.pow size (563 / 256)

def a98OfLinear : Float32 → Float32 :=
  odd fun size => Float32.pow size (256 / 563)

def linearOfProphoto (value : Float32) : Float32 :=
  if value.abs <= 16 / 512 then value / 16 else odd (fun size => Float32.pow size 1.8) value

def prophotoOfLinear (value : Float32) : Float32 :=
  if value.abs >= 1 / 512 then odd (fun size => Float32.pow size (1 / 1.8)) value else 16 * value

def rec2020Scale : Float32 := 1.09929682680944

def rec2020Knee : Float32 := 0.018053968510807

def linearOfRec2020 (value : Float32) : Float32 :=
  if value.abs < rec2020Knee * 4.5 then value / 4.5
  else odd (fun size => Float32.pow ((size + rec2020Scale - 1) / rec2020Scale) (1 / 0.45)) value

def rec2020OfLinear (value : Float32) : Float32 :=
  if value.abs > rec2020Knee then
    odd (fun size => rec2020Scale * Float32.pow size 0.45 - (rec2020Scale - 1)) value
  else 4.5 * value

def turn (degrees : Float32) : Float32 :=
  (degrees - 360 * (degrees / 360).floor) / 360

def channelOfHue (low high third : Float32) : Float32 :=
  let h := if third < 0 then third + 3 else third
  let h := if h > 3 then h - 3 else h
  if h * 2 < 1 then low + (high - low) * h * 2
  else if h * 2 < 3 then high
  else if h < 2 then low + (high - low) * (2 - h) * 2
  else low

def ofHue (hue saturation lightness : Float32) : Float32 × Float32 × Float32 :=
  let high := if lightness <= 0.5 then lightness * (saturation + 1)
    else lightness + saturation - lightness * saturation
  let low := lightness * 2 - high
  let third := hue * 3
  let channel := channelOfHue low high
  (channel (third + 1), channel third, channel (third - 1))

def srgbOfHsl (p : Coordinates) : Coordinates :=
  let (r, g, b) := ofHue (turn p.a) (p.b / 100) (p.c / 100)
  ⟨r, g, b, p.alpha⟩

def srgbOfHwb (p : Coordinates) : Coordinates :=
  let white := p.b / 100
  let black := p.c / 100
  if white + black >= 1 then
    let gray := white / (white + black)
    ⟨gray, gray, gray, p.alpha⟩
  else
    let (r, g, b) := ofHue (turn p.a) 1 0.5
    let rest := 1 - white - black
    ⟨r * rest + white, g * rest + white, b * rest + white, p.alpha⟩

def least (a b : Float32) : Float32 := if a < b then a else b

def greatest (a b : Float32) : Float32 := if a > b then a else b

def hueOf (p : Coordinates) : Float32 :=
  let high := greatest (greatest p.a p.b) p.c
  let low := least (least p.a p.b) p.c
  let d := high - low
  if d == 0 then 0 / 0
  else if high == p.a then ((p.b - p.c) / d + (if p.b < p.c then 6 else 0)) * 60
  else if high == p.b then ((p.c - p.a) / d + 2) * 60
  else ((p.a - p.b) / d + 4) * 60

def hslOfSrgb (p : Coordinates) : Coordinates :=
  let high := greatest (greatest p.a p.b) p.c
  let low := least (least p.a p.b) p.c
  let lightness := (low + high) / 2
  let saturation := if high - low == 0 || lightness == 0 || lightness == 1 then 0
    else (high - lightness) / least lightness (1 - lightness)
  ⟨hueOf p, saturation * 100, lightness * 100, p.alpha⟩

def hwbOfSrgb (p : Coordinates) : Coordinates :=
  let high := greatest (greatest p.a p.b) p.c
  let low := least (least p.a p.b) p.c
  ⟨hueOf p, low * 100, (1 - high) * 100, p.alpha⟩

def polar (p : Coordinates) : Coordinates :=
  let h := Float32.atan2 p.c p.b * 180 / Quantity.pi
  let h := if h < 0 then h + 360 else h
  ⟨p.a, (p.b * p.b + p.c * p.c).sqrt, Number.remainder h 360, p.alpha⟩

def rectangular (p : Coordinates) : Coordinates :=
  let radians := p.c * Quantity.pi / 180
  ⟨p.a, p.b * radians.cos, p.b * radians.sin, p.alpha⟩

def kappa : Float32 := 24389 / 27

def epsilon : Float32 := 216 / 24389

def whiteX : Float32 := 0.3457 / 0.3585

def whiteZ : Float32 := (1 - 0.3457 - 0.3585) / 0.3585

def cube (value : Float32) : Float32 := value * value * value

def xyzOfLab (p : Coordinates) : Coordinates :=
  let f1 := (p.a + 16) / 116
  let f0 := p.b / 500 + f1
  let f2 := f1 - p.c / 200
  let axis (f : Float32) : Float32 := if cube f > epsilon then cube f else (116 * f - 16) / kappa
  let y := if p.a > kappa * epsilon then cube ((p.a + 16) / 116) else p.a / kappa
  ⟨axis f0 * whiteX, y, axis f2 * whiteZ, p.alpha⟩

def labOfXyz (p : Coordinates) : Coordinates :=
  let axis (x : Float32) : Float32 := if x > epsilon then x.cbrt else (kappa * x + 16) / 116
  let f0 := axis (p.a / whiteX)
  let f1 := axis p.b
  let f2 := axis (p.c / whiteZ)
  ⟨116 * f1 - 16, 500 * (f0 - f1), 200 * (f1 - f2), p.alpha⟩

def xyzOfOklab (p : Coordinates) : Coordinates :=
  conesToXyz.apply ((oklabToCones.apply p).map cube)

def oklabOfXyz (p : Coordinates) : Coordinates :=
  conesToOklab.apply ((xyzToCones.apply p).map Float32.cbrt)

def hub : Space → Space
  | rgb | hsl | hwb | srgb => srgb
  | lab | lch => lab
  | oklab | oklch => oklab
  | space => space

def toHub : Space → Coordinates → Coordinates
  | rgb, p => p.map (· / 255)
  | hsl, p => srgbOfHsl p
  | hwb, p => srgbOfHwb p
  | lch, p | oklch, p => rectangular p
  | _, p => p

def ofHub : Space → Coordinates → Coordinates
  | rgb, p => p.map (· * 255)
  | hsl, p => hslOfSrgb p
  | hwb, p => hwbOfSrgb p
  | lch, p | oklch, p => polar p
  | _, p => p

def isD50 : Space → Bool
  | lab | prophoto | xyzD50 => true
  | _ => false

def toXyz : Space → Coordinates → Coordinates
  | srgb, p => srgbToXyz.apply (p.map linearOfSrgb)
  | srgbLinear, p => srgbToXyz.apply p
  | displayP3, p => p3ToXyz.apply (p.map linearOfSrgb)
  | a98, p => a98ToXyz.apply (p.map linearOfA98)
  | prophoto, p => prophotoToXyz.apply (p.map linearOfProphoto)
  | rec2020, p => rec2020ToXyz.apply (p.map linearOfRec2020)
  | lab, p => xyzOfLab p
  | oklab, p => xyzOfOklab p
  | _, p => p

def ofXyz : Space → Coordinates → Coordinates
  | srgb, p => (xyzToSrgb.apply p).map srgbOfLinear
  | srgbLinear, p => xyzToSrgb.apply p
  | displayP3, p => (xyzToP3.apply p).map srgbOfLinear
  | a98, p => (xyzToA98.apply p).map a98OfLinear
  | prophoto, p => (xyzToProphoto.apply p).map prophotoOfLinear
  | rec2020, p => (xyzToRec2020.apply p).map rec2020OfLinear
  | lab, p => labOfXyz p
  | oklab, p => oklabOfXyz p
  | _, p => p

def adapt (fromD50 toD50 : Bool) (p : Coordinates) : Coordinates :=
  match fromD50, toD50 with
  | true, false => d50ToD65.apply p
  | false, true => d65ToD50.apply p
  | _, _ => p

def betweenHubs (source target : Space) (p : Coordinates) : Coordinates :=
  if source = target then p
  else
    match source, target with
    | srgb, srgbLinear => p.map linearOfSrgb
    | srgbLinear, srgb => p.map srgbOfLinear
    | _, _ => ofXyz target (adapt source.isD50 target.isD50 (toXyz source p))

def convertAny (source target : Space) (p : Coordinates) : Coordinates :=
  if source = target then p
  else if source = rgb && target = srgb then toHub source p
  else ofHub target (betweenHubs source.hub target.hub (toHub source p.resolve))

def within (low high value : Float32) : Bool :=
  low <= value && value <= high

def contains (space : Space) (p : Coordinates) : Bool :=
  match space with
  | rgb => within 0 255 p.a && within 0 255 p.b && within 0 255 p.c
  | hsl | hwb => within 0 100 p.b && within 0 100 p.c
  | srgb | srgbLinear | displayP3 | a98 | prophoto | rec2020 =>
    within 0 1 p.a && within 0 1 p.b && within 0 1 p.c
  | _ => true

def clip (space : Space) (p : Coordinates) : Coordinates :=
  match space with
  | rgb => p.map (Number.clamp 0 255)
  | hsl | hwb => { p with b := Number.clamp 0 100 p.b, c := Number.clamp 0 100 p.c }
  | _ => p.map (Number.clamp 0 1)

def difference (a b : Coordinates) : Float32 :=
  let l := a.a - b.a
  let m := a.b - b.b
  let n := a.c - b.c
  (l * l + m * m + n * n).sqrt

def reduceChroma (space : Space) (color : Coordinates) : Nat → Float32 → Float32 → Coordinates
  | 0, _, _ => convertAny .oklch space color
  | steps + 1, low, high =>
    if !(high - low > 0.00001) then convertAny .oklch space color
    else
      let chroma := (low + high) / 2
      let current := { color with b := chroma }
      let converted := convertAny .oklch space current
      if space.contains converted then reduceChroma space current steps chroma high
      else
        let clipped := space.clip converted
        let apart :=
          difference (convertAny space .oklab clipped) (convertAny .oklch .oklab current)
        if apart < 0.02 then clipped else reduceChroma space current steps low chroma

def mapToGamut (space : Space) (p : Coordinates) : Coordinates :=
  let color := convertAny space .oklch p
  let gray (lightness : Float32) : Coordinates :=
    convertAny .oklch space ⟨lightness, 0, 0, color.alpha⟩
  if (color.a - 1).abs < 0.00001 || color.a > 1 then gray 1
  else if color.a < 0.00001 then gray 0
  else reduceChroma space color 64 0 color.b

def resolve (space : Space) (p : Coordinates) : Coordinates :=
  let p := p.resolve
  if space.contains p then p else space.mapToGamut p

def convert (source target : Space) (p : Coordinates) : Coordinates :=
  if source = target then p
  else if target = hsl || target = hwb then
    ofHub target (srgb.resolve (convertAny source srgb p))
  else convertAny source target p

end Space

end ScopedStyles.Stylesheet.Color
