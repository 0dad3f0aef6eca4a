import PlanTimelines.Console.Colour

/-! The banner that opens a console session. -/

namespace PlanTimelines.Console

def bannerRows : List String :=
  [" _____ _                _ _            _____",
    "|_   _(_)_ __ ___   ___| (_)_ __   ___|  ___|__  _ __ __ _  ___",
    "  | | | | '_ ` _ \\ / _ \\ | | '_ \\ / _ \\ |_ / _ \\| '__/ _` |/ _ \\",
    "  | | | | | | | | |  __/ | | | | |  __/  _| (_) | | | (_| |  __/",
    "  |_| |_|_| |_| |_|\\___|_|_|_| |_|\\___|_|  \\___/|_|  \\__, |\\___|",
    "                                                     |___/"]

def versionRow : String :=
  "                     v0.1.0 - Planning to Timeline Converter"

def banner : String :=
  paint .brightCyan ("\n" ++ "\n".intercalate bannerRows ++ "\n") ++ "\n" ++
    bold (paint .brightWhite (versionRow ++ "\n")) ++ "\n"

/-- A session prints its banner when it is first opened, and nothing on later calls. -/
structure Session where
  isOpen : Bool
deriving DecidableEq, Repr

def Session.new : Session := ⟨false⟩

/-- Opens a session: what is printed, and the session afterwards. -/
def Session.enter (s : Session) : String × Session :=
  (if s.isOpen then "" else banner, ⟨true⟩)

end PlanTimelines.Console
