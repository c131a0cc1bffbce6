import OutlineWiki.Fault
import OutlineWiki.Renderer

/-!
# What a renderer is given

A renderer is made from options that may be missing, its own, those common to all renderers, or no
options at all; only the first two make one. A renderer that cannot render to a string says so by
its name.
-/

namespace OutlineWiki

/-- What stands where a renderer's options should stand. -/
inductive GivenOptions where
  | missing
  | own (options : Options)
  | common
  | value (value : Json)
deriving Inhabited, Repr

/-- The name of a kind of options in messages. -/
def GivenOptions.kindName : GivenOptions → String
  | .missing => "NoneType"
  | .own _ => "TracRendererOptions"
  | .common => "BaseRendererOptions"
  | .value found => found.kindName

/-- The renderer with the options given; without any, with the usual ones. -/
def Renderer.ofGiven : GivenOptions → Except Fault Renderer
  | .missing => .ok {}
  | .own options => .ok { options }
  | given => .error (.wrongOptions "trac" "TracRendererOptions" given.kindName)

/-- What a renderer says that has a name but no way to render to a string. -/
def cannotRenderToString (name : String) : String :=
  name ++ " cannot render to a string."

end OutlineWiki
