import RefDocs.Files.Host
import RefDocs.Generate

/-!
# Reports

The lines that tell how a run goes: what is built and where to, the pages that failed, and a closing
count.  Good and bad news are coloured where colours are wanted.
-/

namespace RefDocs
namespace Command

/-- A colour of text on a terminal. -/
inductive Colour where
  | green
  | red
  deriving DecidableEq, Repr

/-- The number of a colour in control sequences. -/
def Colour.code : Colour → String
  | .green => "32"
  | .red => "31"

/-- A text between control sequences that switch a colour on and off. -/
def Colour.paint (colour : Colour) (text : String) : String :=
  "\x1b[" ++ colour.code ++ "m" ++ text ++ "\x1b[0m"

/-- A number of pages in words. -/
def countedPages (count : Nat) : String :=
  toString count ++ if count = 1 then " page" else " pages"

/-- The line that opens a run. -/
def openingLine (snapshot dir : String) : String :=
  snapshot ++ " -> " ++ dir

/-- The line of a page that failed. -/
def failureLine (error : PageError) : String :=
  "  failed " ++ error.page ++ ": " ++ error.fault.message

/-- The line that closes a run. -/
def closingLine (written failed : Nat) (dir : String) : String :=
  "Wrote " ++ countedPages written ++ " to " ++ dir
    ++ if failed = 0 then "" else ", " ++ countedPages failed ++ " failed"

variable {m : Type → Type} [Monad m] [Host m]

/-- Colours are wanted: by demand, or on a terminal that can show them and is not told otherwise. -/
def wantsColour : m Bool := do
  let demand ← Host.getVariable "CLICOLOR_FORCE"
  if demand.getD "0" != "0" then return true
  let refusal ← Host.getVariable "NO_COLOR"
  let terminal ← Host.getVariable "TERM"
  let choice ← Host.getVariable "CLICOLOR"
  return (← Host.isTerminal) && refusal.isNone && terminal.any (· != "dumb") && choice != some "0"

/-- A line is reported in a colour. -/
def reportIn (colour : Colour) (line : String) : m Unit := do
  if ← wantsColour then Host.report (colour.paint line)
  else Host.report line

end Command
end RefDocs
