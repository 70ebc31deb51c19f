import NodeBootstrap.Log.Event

/-! # Log lines -/

namespace NodeBootstrap.Log.Event

/-- An event as a log shows it, without the time; `showProcess` says how process numbers are
shown. -/
def line (showProcess : Nat → String) (e : Event) : String :=
  let shown := e.fields.map fun f => s!"{f.name}={f.value.inLine showProcess}"
  s!"{e.level.name} {e.target}: " ++ " ".intercalate shown

end NodeBootstrap.Log.Event
