import ScopedStyles.Page.Record

namespace ScopedStyles

structure Injection where
  className : String
  css : String
  sourceMap : String
  deriving DecidableEq, Repr

structure Browser where
  record : RenderRecord := {}
  firstRenderDone : Bool := false
  deriving Repr, Inhabited

def Browser.finishFirstRender (browser : Browser) : Browser :=
  { browser with firstRenderDone := true }

def Browser.fresh : Browser := {}

structure Server where
  record : RenderRecord := {}
  deriving Repr, Inhabited

inductive Place where
  | browser (browser : Browser)
  | server (server : Server)
  deriving Repr, Inhabited

namespace Place

def record : Place → RenderRecord
  | browser b => b.record
  | server s => s.record

def isBrowser : Place → Bool
  | browser _ => true
  | server _ => false

def contains (place : Place) (className : String) : Bool :=
  place.record.contains className

def firstRenderDone : Place → Bool
  | browser b => b.firstRenderDone
  | server _ => false

def mark (className : String) : Place → Place
  | browser b => browser { b with record := b.record.mark className }
  | server s => server { s with record := s.record.mark className }

end Place

end ScopedStyles
