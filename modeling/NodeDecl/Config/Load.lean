import NodeDecl.Config.Document
import NodeDecl.Failure

/-!
# Loading the configuration

The configuration comes from a file, or is the default one if no file is named.
-/

namespace NodeDecl.Config

/-- The configuration of a document. -/
def parse (text origin : String) : Except Failure Config :=
  (Json.parse reader text).mapError (.config origin)

/-- The configuration of a file, or the default one. -/
def load {m : Type → Type} [Monad m] [Host m] : Option Path → Action m Config
  | none => return {}
  | some path => do
      let text ← Action.request path (Host.readText path)
      Action.ofExcept (parse text path.text)

end NodeDecl.Config
