/-!
# Name, version and licence terms

The banner stands above the report, and the licence terms are printed on request.
-/

namespace StatusDigest

/-- The name of the program. -/
def programName : String :=
  "nagstats"

/-- The version of the program. -/
def programVersion : String :=
  "0.1.0"

/-- Name and version in one line. -/
def versionText : String :=
  programName ++ " " ++ programVersion ++ "\n"

/-- The two lines that say what the program is. -/
def banner : String :=
  versionText ++ "Status-file statistics for Nagios-compatible daemons\n"

/-- The lines of the terms under which the program may be used. -/
def terms : List String :=
  ["This program is free software; you can redistribute it and/or modify",
   "it under the terms of the GNU General Public License version 2 as",
   "published by the Free Software Foundation.",
   "",
   "This program is distributed in the hope that it will be useful,",
   "but WITHOUT ANY WARRANTY; without even the implied warranty of",
   "MERCHANTABILITY or FITNESS FOR A PARTICULAR PURPOSE.  See the",
   "GNU General Public License for more details."]

/-- The banner and the licence terms. -/
def license : String :=
  banner ++ "\n" ++ String.intercalate "\n" terms ++ "\n"

end StatusDigest
