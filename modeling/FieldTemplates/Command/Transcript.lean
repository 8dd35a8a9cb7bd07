import FieldTemplates.Command.Screen
import FieldTemplates.Files.Tree
import FieldTemplates.Log.Entry
import FieldTemplates.Options.Load
import FieldTemplates.Web.Fetch

namespace FieldTemplates.Command

inductive Event where
  -- A line of markup on the screen.
  | say (channel : Channel) (markup : String)
  | grid (channel : Channel) (g : Grid)
  | panel (channel : Channel) (p : Panel)
  -- Text that is written as it is.
  | raw (channel : Channel) (text : String)
  | wrote (path : Files.Path) (text : List Char)
  | called (call : Web.Call)
  | logged (entry : Log.Entry)

-- What ends a command without an exit code.
inductive Breakdown where
  | screen (e : ScreenError)
  | fetch (e : Web.FetchError)
  | document (limit : Json.Limit)
  | system (path : String) (e : Files.SystemError)
  | path (f : Files.Path.Fault)
  | unencodable (e : Text.Utf8.EncodeError)
  | options (e : Options.LoadError)
  | outputFile (kind : String)

def Breakdown.message : Breakdown → String
  | .screen e => e.message
  | .fetch e => e.message
  | .document l => l.message
  | .system place e => e.message place
  | .path f => f.message
  | .unencodable e => e.message
  | .options e => e.message
  | .outputFile kind => s!"output_file names no file: {kind}"

structure Transcript where
  events : List Event := []
  result : Except Breakdown Nat

namespace Event

-- What an event puts on a channel of a screen.
def shown (s : Screen) : Event → Except ScreenError (Option (Channel × List Char))
  | say channel markup => (s.paragraph channel markup).map fun cs => some (channel, cs)
  | grid channel g => (s.grid channel g).map fun cs => some (channel, cs)
  | panel channel p => (s.panel channel p).map fun cs => some (channel, cs)
  | raw channel text => (s.plain channel text).map fun cs => some (channel, cs)
  | _ => .ok none

end Event

namespace Transcript

def ended (code : Nat) (events : List Event := []) : Transcript := ⟨events, .ok code⟩

def broken (b : Breakdown) (events : List Event := []) : Transcript := ⟨events, .error b⟩

def after (events : List Event) (t : Transcript) : Transcript := ⟨events ++ t.events, t.result⟩

def settle (s : Screen) (result : Except Breakdown Nat) : List Event → Transcript
  | [] => ⟨[], result⟩
  | e :: es =>
    match e.shown s with
    | .ok _ => (settle s result es).after [e]
    | .error m => .broken (.screen m)

-- The first event that the screen does not show ends the command.
def settled (s : Screen) (t : Transcript) : Transcript := settle s t.result t.events

-- Everything that one channel shows.
def text (s : Screen) (t : Transcript) (channel : Channel) : List Char :=
  t.events.flatMap fun e =>
    match e.shown s with
    | .ok (some (c, cs)) => if c = channel then cs else []
    | _ => []

def calls (t : Transcript) : List Web.Call :=
  t.events.filterMap fun
    | .called call => some call
    | _ => none

def writes (t : Transcript) : List (Files.Path × List Char) :=
  t.events.filterMap fun
    | .wrote path text => some (path, text)
    | _ => none

end Transcript

end FieldTemplates.Command
