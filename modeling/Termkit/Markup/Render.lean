import Termkit.Markup.Builder

/-!
# Rendering

What an engine does with markup and styles is its own affair: it parses markup into its form of
attributed text, and packs a style into the attribute of a cell. An engine may keep a state, so
that its answers come in a monad.
-/

namespace Termkit

/-- What a rendering engine offers; `Parsed` is its form of markup. -/
structure RenderEngine (m : Type → Type) (Parsed : Type) where
  parse : Text → m Parsed
  pack : Style → m UInt32

def Markup.render {m : Type → Type} {Parsed : Type} (x : Markup) (e : RenderEngine m Parsed) :
    m Parsed :=
  e.parse x.markup

end Termkit
