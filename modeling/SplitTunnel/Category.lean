import SplitTunnel.Named

namespace SplitTunnel

/-!
# Rule categories

The rules of a package stand in one of two lists, or in both.
-/

/-- The list that a package's rules belong to. -/
inductive Category where
  /-- Packages routed around the tunnel. -/
  | excluded
  /-- Packages forced through the tunnel. -/
  | included
  deriving Repr, DecidableEq

instance : Named Category where
  values := [.excluded, .included]
  name
    | .excluded => "exclude"
    | .included => "include"

namespace Category

/-- The name of a category, which is also its key in a rule document. -/
def name (category : Category) : String :=
  Named.name category

/-- A text that names no category. -/
structure UnknownName where
  text : String
  deriving Repr, DecidableEq

/-- What is said about a text that names no category. -/
def UnknownName.message (unknown : UnknownName) : String :=
  s!"invalid category '{unknown.text}', must be one of: exclude, include"

/-- Read the name of a category as a user writes it. -/
def ofUserText (text : String) : Except UnknownName Category :=
  match Named.ofUserText? text with
  | some category =>
      .ok category
  | none =>
      .error { text := text }

end Category

end SplitTunnel
