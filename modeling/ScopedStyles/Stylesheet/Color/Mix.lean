import ScopedStyles.Stylesheet.Color

namespace ScopedStyles.Stylesheet.Color

inductive HuePath where
  | shorter
  | longer
  | increasing
  | decreasing
  | specified
  deriving DecidableEq, Repr

namespace HuePath

def ofName? (name : String) : Option HuePath :=
  match name with
  | "shorter" => some shorter
  | "longer" => some longer
  | "increasing" => some increasing
  | "decreasing" => some decreasing
  | "specified" => some specified
  | _ => none

def normal (hue : Float32) : Float32 :=
  Number.remainder (Number.remainder hue 360 + 360) 360

def align (path : HuePath) (a b : Float32) : Float32 × Float32 :=
  if path = specified then (a, b)
  else
    let a := normal a
    let b := normal b
    let delta := b - a
    match path with
    | shorter =>
      if delta > 180 then (a + 360, b) else if delta < -180 then (a, b + 360) else (a, b)
    | longer =>
      if 0 < delta && delta < 180 then (a + 360, b)
      else if -180 < delta && delta < 0 then (a, b + 360)
      else (a, b)
    | increasing => if b < a then (a, b + 360) else (a, b)
    | _ => if a < b then (a + 360, b) else (a, b)

end HuePath

namespace Space

def hasHueFirst : Space → Bool
  | hsl | hwb => true
  | _ => false

def hasHueLast : Space → Bool
  | lch | oklch => true
  | _ => false

def nearZero (value : Float32) : Bool :=
  value.abs < 0.00000011920929

def missing : Float32 := 0 / 0

def withoutPowerless (space : Space) (p : Coordinates) : Coordinates :=
  match space with
  | lab | oklab => if nearZero p.a then { p with b := missing, c := missing } else p
  | lch | oklch =>
    if nearZero p.a then { p with b := missing, c := missing }
    else if nearZero p.b then { p with c := missing }
    else p
  | hsl =>
    if nearZero p.c || nearZero (p.c - 100) then { p with a := missing, b := missing }
    else if nearZero p.b then { p with a := missing }
    else p
  | hwb => if nearZero (p.b + p.c - 100) then { p with a := missing } else p
  | _ => p

def mapUnhued (space : Space) (f : Float32 → Float32) (p : Coordinates) : Coordinates :=
  { p with
    a := if space.hasHueFirst then p.a else f p.a
    b := f p.b
    c := if space.hasHueLast then p.c else f p.c }

def premultiply (space : Space) (p : Coordinates) : Coordinates :=
  if p.alpha.isNaN then p else space.mapUnhued (· * p.alpha) p

def unpremultiply (space : Space) (factor : Float32) (p : Coordinates) : Coordinates :=
  if p.alpha.isNaN || p.alpha == 0 then p
  else
    let q := space.mapUnhued (· / p.alpha) p
    { q with
      a := if space.hasHueFirst then Number.remainder q.a 360 else q.a
      c := if space.hasHueLast then Number.remainder q.c 360 else q.c
      alpha := p.alpha * factor }

end Space

namespace Coordinates

def fillFrom (p q : Coordinates) : Coordinates :=
  let fill (x y : Float32) : Float32 := if x.isNaN then y else x
  ⟨fill p.a q.a, fill p.b q.b, fill p.c q.c, fill p.alpha q.alpha⟩

def interpolate (p : Coordinates) (x : Float32) (q : Coordinates) (y : Float32) : Coordinates :=
  ⟨p.a * x + q.a * y, p.b * x + q.b * y, p.c * x + q.c * y, p.alpha * x + q.alpha * y⟩

end Coordinates

def forMixture? (space : Space) (color : Color) : Option Coordinates :=
  match color with
  | inSpace own p =>
    if own = space then some p
    else if own = .rgb && space = .srgb then some (Space.convert own space p)
    else
      let q := Space.convert own space p
      some (space.withoutPowerless (if space.contains q then q else space.mapToGamut q))
  | _ => do
    let q ← coordinates? space color
    return space.withoutPowerless (if space.contains q then q else space.mapToGamut q)

def ofMixture (space : Space) (p : Coordinates) : Color :=
  match space with
  | .rgb | .srgb | .hsl | .hwb => bytesOf space p
  | _ => inSpace space p

def mixPlain? (space : Space) (path : HuePath) (first : Color) (x : Float32) (second : Color)
    (y : Float32) : Option Color := do
  let p ← forMixture? space first
  let q ← forMixture? space second
  let p' := p.fillFrom q
  let q' := q.fillFrom p'
  let (p', q') :=
    if space.hasHueFirst then
      let (a, b) := path.align p'.a q'.a
      ({ p' with a := a }, { q' with a := b })
    else if space.hasHueLast then
      let (a, b) := path.align p'.c q'.c
      ({ p' with c := a }, { q' with c := b })
    else (p', q')
  let total := x + y
  let (x, y) := if total == 1 then (x, y) else (x / total, y / total)
  let mixed := (space.premultiply p').interpolate x (space.premultiply q') y
  return ofMixture space (space.unpremultiply (if total > 1 then 1 else total) mixed)

def mix? (space : Space) (path : HuePath) (first : Color) (x : Float32) (second : Color)
    (y : Float32) : Option Color :=
  match first, second with
  | lightDark l d, lightDark l' d' => do
    return lightDark (← mixPlain? space path l x l' y) (← mixPlain? space path d x d' y)
  | lightDark l d, other => do
    return lightDark (← mixPlain? space path l x other y) (← mixPlain? space path d x other y)
  | other, lightDark l d => do
    return lightDark (← mixPlain? space path other x l y) (← mixPlain? space path other x d y)
  | _, _ => mixPlain? space path first x second y

end ScopedStyles.Stylesheet.Color
