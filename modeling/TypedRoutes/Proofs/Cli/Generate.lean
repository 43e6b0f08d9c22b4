import TypedRoutes.Proofs.Cli.Deliver

/-! Runs that generate the files of a manifest in a directory: which files they write, what they
leave as it was, and what they say. -/

namespace TypedRoutes.Cli

/-! The directory. -/

section

variable (circumstances : Circumstances)

end

/-! What is told when little is logged. -/

namespace Circumstances

section

variable {circumstances : Circumstances} {verbose : Bool}

end

end Circumstances

/-! The whole command. -/

section

variable {circumstances : Circumstances} {verbose keepGoing : Bool} {base : FileTree}
  {directory : String} {place : List String} {manifest : Manifest}
  {result : Transcript × FileTree}

end

end TypedRoutes.Cli
