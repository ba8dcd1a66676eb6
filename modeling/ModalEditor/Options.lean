import ModalEditor.Error

/-!
# Options

Three options shape the editor: whether patterns mind case, whether searches go round the end of
the buffer, and how many blanks a tab inserts. The command `:set` takes a row of directives, such as
`ic nows sts=4`, and carries them out one by one up to the first that makes no sense.
-/

namespace ModalEditor

/-- The values of the options. -/
structure Options where
  /-- Patterns do not mind case. -/
  ignoreCase : Bool := false
  /-- Searches go on at the other end of the buffer. -/
  wrapScan : Bool := true
  /-- Number of blanks that the tab key inserts. -/
  softTabStop : Nat := 2
deriving Repr, DecidableEq, Inhabited

/-- An option. -/
inductive OptionName where
  /-- `ignorecase`, `ic` -/
  | ignoreCase
  /-- `wrapscan`, `ws` -/
  | wrapScan
  /-- `softtabstop`, `sts` -/
  | softTabStop
deriving Repr, DecidableEq

namespace OptionName

/-- Every option, in the order of listings. -/
def all : List OptionName := [.ignoreCase, .wrapScan, .softTabStop]

/-- The name in full. -/
def text : OptionName → Text
  | .ignoreCase => "ignorecase".toList
  | .wrapScan => "wrapscan".toList
  | .softTabStop => "softtabstop".toList

/-- The short name. -/
def short : OptionName → Text
  | .ignoreCase => "ic".toList
  | .wrapScan => "ws".toList
  | .softTabStop => "sts".toList

/-- The option with the given name, in full or short. -/
def find? (name : Text) : Option OptionName :=
  all.find? fun o => name = o.text || name = o.short

end OptionName

/-- One argument of `:set`, with names and values as typed. -/
inductive Directive where
  /-- Switches on. -/
  | on (name : Text)
  /-- Switches off. -/
  | off (name : Text)
  /-- Switches over. -/
  | toggle (name : Text)
  /-- Shows the value. -/
  | query (name : Text)
  /-- Sets the value. -/
  | assign (name value : Text)
  /-- Shows all options. -/
  | showAll
deriving Repr, DecidableEq

namespace Directive

/-- The option can be switched on and off. -/
def isSwitch (name : Text) : Bool :=
  match OptionName.find? name with
  | some .ignoreCase | some .wrapScan => true
  | _ => false

/-- The name after `no`, if it names a switch. -/
def switchedOff? (arg : Text) : Option Text := do
  let name ← Text.after? "no".toList arg
  if isSwitch name then return name else none

/-- Reads an argument. -/
def ofText (arg : Text) : Directive :=
  if arg = "all".toList then .showAll
  else
    match Text.cut? '=' arg with
    | some (name, value) => .assign name value
    | none =>
      match Text.beforeFinal? '?' arg, Text.beforeFinal? '!' arg, switchedOff? arg with
      | some name, _, _ => .query name
      | none, some name, _ => .toggle name
      | none, none, some name => .off name
      | none, none, none =>
        if OptionName.find? arg = some .softTabStop then .query arg else .on arg

end Directive

namespace Options

/-- The error for a name that is no option, or none of the right type. -/
def unknown (name : Text) : EditorError :=
  .invalidArgument ("unknown option: ".toList ++ name)

/-- A switch as a listing shows it. -/
def switchText (name : Text) (on : Bool) : Text := if on then name else "no".toList ++ name

/-- An option as a listing shows it. -/
def valueText (o : Options) (name : OptionName) : Text :=
  match name with
  | .ignoreCase => switchText name.text o.ignoreCase
  | .wrapScan => switchText name.text o.wrapScan
  | .softTabStop => name.text ++ '=' :: Text.ofNat o.softTabStop

/-- All options on a line. -/
def listing (o : Options) : Text := Text.join [' ', ' '] (OptionName.all.map o.valueText)

/-- The options with a switch changed. -/
def setSwitch (o : Options) (name : Text) (change : Bool → Bool) : Except EditorError Options :=
  match OptionName.find? name with
  | some .ignoreCase => .ok { o with ignoreCase := change o.ignoreCase }
  | some .wrapScan => .ok { o with wrapScan := change o.wrapScan }
  | _ => .error (unknown name)

/-- Carries out a directive. Gives the options afterwards and what there is to show. -/
def apply (o : Options) : Directive → Except EditorError (Options × Option Text)
  | .showAll => .ok (o, some o.listing)
  | .query name =>
    match OptionName.find? name with
    | some option => .ok (o, some (o.valueText option))
    | none => .error (unknown name)
  | .on name => (o.setSwitch name fun _ => true).map (·, none)
  | .off name => (o.setSwitch name fun _ => false).map (·, none)
  | .toggle name => (o.setSwitch name not).map (·, none)
  | .assign name value =>
    if OptionName.find? name ≠ some .softTabStop then
      .error (.invalidArgument (name ++ '=' :: value))
    else
      match Text.number? value with
      | some n => .ok ({ o with softTabStop := n }, none)
      | none =>
        .error (.invalidArgument ("number required after =: ".toList ++ name ++ '=' :: value))

/-- Carries out directives, first to last. An error keeps what the directives before it did. -/
def applyAll (o : Options) : List Directive → Options × Except EditorError (List Text)
  | [] => (o, .ok [])
  | d :: rest =>
    match o.apply d with
    | .error e => (o, .error e)
    | .ok (o, shown) =>
      let (o, result) := applyAll o rest
      (o, result.map (shown.toList ++ ·))

/-- Carries out the arguments of `:set`; no arguments show all options. Gives the options
afterwards and what there is to show. -/
def applySet (o : Options) (args : Text) : Options × Except EditorError (Option Text) :=
  match Text.words args with
  | [] => (o, .ok (some o.listing))
  | words =>
    let (o, result) := o.applyAll (words.map Directive.ofText)
    (o, result.map fun shown => if shown.isEmpty then none else some (Text.join ['\n'] shown))

end Options
end ModalEditor
