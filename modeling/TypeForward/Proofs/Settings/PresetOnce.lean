import TypeForward.Proofs.Settings.Parallel

/-! Presets are read once, and only what is not set is preset. What a resolution leaves behind that could not read them
depends on why it could not. -/
namespace TypeForward.Workspace
open Entries Disk Settings

end TypeForward.Workspace
