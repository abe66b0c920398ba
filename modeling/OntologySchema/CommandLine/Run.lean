import OntologySchema.CommandLine.Program
import OntologySchema.CommandLine.Standard
import OntologySchema.Files.Basic

/-!
# Runs on a state

What a run of the program comes to: its status, what it put out and what it complained of, and the files that it
leaves.
-/

namespace OntologySchema

/-- What is seen of a run. -/
structure Outcome where
  status : Nat
  output : String
  complaint? : Option String
  deriving DecidableEq, Repr

variable {σ : Type} [FileSystem σ]

/-- What is seen of a run on some files, and the files that it leaves. -/
def runOn (lib : Libraries) (arguments : List String) (before : σ) : Outcome × σ :=
  let (ending, after) := (program lib arguments : StateM (World σ) Ending).run { files := before }
  (⟨ending.status, after.printed, ending.complaint?⟩, after.files)

/-- Run the program with some arguments. -/
def run (arguments : List String) : StateM σ Outcome := fun before => runOn .standard arguments before

end OntologySchema
