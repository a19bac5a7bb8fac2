import RemoteShell.Yaml.Document
import RemoteShell.Text.Blank
import RemoteShell.Url.Basic

/-!
# Settings

Settings come in layers: the defaults, a settings file, an address from the environment, and the command line. A later
layer overrides an earlier one, setting by setting.

Main statements:

* `isWeb_of_parseServer`: the address of the service is always one that can be called.
* `applyFlags_rows`: settings that were accepted have at least one row to a screen.
-/

namespace RemoteShell

/-- The settings in force. -/
structure Settings where
  server : Option Url := none
  prompt : String := "fsterm> "
  rows : Nat := 24
  pager : Bool := true
  home : String := "/"
  timeout : Nat := 30
deriving DecidableEq, Repr

/-- What is wrong with the address of a service. -/
inductive ServerFault where
  | malformed (e : Url.ParseError)
  | unsupported (scheme : String)
deriving DecidableEq, Repr

/-- Why a layer of settings is refused. -/
inductive SettingsError where
  /-- The settings file is none. -/
  | badFile
  | badServer (address : String) (fault : ServerFault)
  | badRows
deriving DecidableEq, Repr

/-- The wording of a fault of an address. -/
def ServerFault.message : ServerFault → String
  | .malformed e => e.message
  | .unsupported scheme => "unsupported scheme '" ++ scheme ++ "'"

/-- What is reported about a layer of settings. -/
def SettingsError.message : SettingsError → String
  | .badFile => "invalid config file"
  | .badServer address fault => "invalid server url '" ++ address ++ "': " ++ fault.message
  | .badRows => "page rows must be at least 1"

/-- The address of a service: one of the web, with any blanks around it. -/
def parseServer (address : String) : Except SettingsError Url :=
  match Url.parse (Text.trimmed address) with
  | .error e => .error (.badServer address (.malformed e))
  | .ok url =>
    if url.isWeb then .ok url else .error (.badServer address (.unsupported (String.ofList url.scheme)))

/-- The settings that a file gives. -/
structure FileSettings where
  server : Option String := none
  prompt : Option String := none
  rows : Option Nat := none
  pager : Option Bool := none
  home : Option String := none
  timeout : Option Nat := none
deriving DecidableEq, Repr

namespace FileSettings

/-- Takes one entry of a settings file in; nothing if there is no such setting or its value does not fit. -/
def add (f : FileSettings) (entry : Yaml.Entry) : Option FileSettings :=
  match String.ofList entry.key.text with
  | "server" => entry.value.text?.map ({ f with server := · })
  | "prompt" => entry.value.text?.map ({ f with prompt := · })
  | "page_rows" => entry.value.nat?.map ({ f with rows := · })
  | "pager" => entry.value.bool?.map ({ f with pager := · })
  | "home" => entry.value.text?.map ({ f with home := · })
  | "timeout_secs" => entry.value.nat?.map ({ f with timeout := · })
  | _ => none

/-- The settings of the entries of a file. No setting may be given twice. -/
def ofEntries (entries : List Yaml.Entry) : Option FileSettings :=
  if (entries.map (·.key.text)).Nodup then entries.foldlM add {} else none

/-- Reads a settings file. A blank one gives nothing. -/
def read (text : String) : Except SettingsError FileSettings :=
  if Text.isAllBlank text then .ok {}
  else match (Yaml.read text).bind ofEntries with
    | some f => .ok f
    | none => .error .badFile

end FileSettings

/-- The settings that the command line gives. -/
structure Flags where
  /-- The path of the settings file. -/
  config : Option String := none
  server : Option String := none
  prompt : Option String := none
  rows : Option Nat := none
  noPager : Bool := false
  home : Option String := none
deriving DecidableEq, Repr

/-- A layer applied: the settings as they are now, and why the layer was refused, if it was. What was set before the
refusal stays. -/
abbrev Applied := Settings × Option SettingsError

namespace Settings

/-- Sets the address of the service, if one is given, and then goes on. -/
def applyServer (s : Settings) (address : Option String) (rest : Settings → Applied) : Applied :=
  match address with
  | none => rest s
  | some text => match parseServer text with
    | .error e => (s, some e)
    | .ok url => rest { s with server := some url }

/-- Applies the settings of a file. -/
def applyFile (s : Settings) (f : FileSettings) : Applied :=
  s.applyServer f.server fun s =>
    ({ s with
      prompt := f.prompt.getD s.prompt, rows := f.rows.getD s.rows, pager := f.pager.getD s.pager
      home := f.home.getD s.home, timeout := f.timeout.getD s.timeout }, none)

/-- Applies the address from the environment. A blank one counts as none. -/
def applyEnvironment (s : Settings) (address : Option String) : Applied :=
  s.applyServer (address.filter fun text => !Text.isAllBlank text) fun s => (s, none)

/-- Applies the settings of the command line, and checks the whole. -/
def applyFlags (s : Settings) (f : Flags) : Applied :=
  s.applyServer f.server fun s =>
    let next := { s with
      prompt := f.prompt.getD s.prompt, rows := f.rows.getD s.rows, pager := s.pager && !f.noPager
      home := f.home.getD s.home }
    (next, if next.rows = 0 then some .badRows else none)

end Settings

/-! ## All layers -/

/-- Why there are no settings. -/
inductive LoadError where
  /-- The settings file cannot be read. -/
  | unreadable (path reason : String)
  | file (path : String) (e : SettingsError)
  | environment (e : SettingsError)
  | flags (e : SettingsError)
deriving DecidableEq, Repr

/-- The name of the variable that holds the address of the service. -/
def serverVariable : String := "FSTERM_SERVER"

/-- What is reported when there are no settings. What is wrong with a file that is none is not said. -/
def LoadError.message : LoadError → String
  | .unreadable path reason => "reading config file " ++ path ++ ": " ++ reason
  | .file path .badFile => "parsing config file " ++ path
  | .file _ e => e.message
  | .environment e => serverVariable ++ " is not usable: " ++ e.message
  | .flags e => e.message

namespace Settings

/-- The settings after a layer, or why it was refused. -/
def accept (refuse : SettingsError → LoadError) (applied : Applied) : Except LoadError Settings :=
  match applied.2 with
  | some e => .error (refuse e)
  | none => .ok applied.1

/-- The defaults and the settings file, if there is one. -/
def loadFile (path : Option String) (read : String → Except String String) : Except LoadError Settings :=
  match path with
  | none => .ok {}
  | some path => match read path with
    | .error reason => .error (.unreadable path reason)
    | .ok text => match FileSettings.read text with
      | .error e => .error (.file path e)
      | .ok f => accept (.file path) (({} : Settings).applyFile f)

/-- The settings of all layers, given how to read a file and the address from the environment. -/
def load (flags : Flags) (address : Option String) (read : String → Except String String) :
    Except LoadError Settings := do
  let s ← loadFile flags.config read
  let s ← accept .environment (s.applyEnvironment address)
  accept .flags (s.applyFlags flags)

/-- **The address of the service is always one that can be called.** -/
theorem isWeb_of_parseServer {address : String} {url : Url} (h : parseServer address = .ok url) : url.isWeb = true := by
  unfold parseServer at h
  split at h
  · cases h
  · next parsed _ =>
    split at h
    · next hweb =>
      cases h
      exact hweb
    · cases h

/-- A layer that was accepted is what comes after its address. -/
theorem applyServer_accepted {s : Settings} {address : Option String} {rest : Settings → Applied}
    (h : (s.applyServer address rest).2 = none) : ∃ t, s.applyServer address rest = rest t := by
  cases address with
  | none => exact ⟨s, rfl⟩
  | some text =>
    simp only [applyServer] at h ⊢
    cases hparse : parseServer text with
    | error e => simp [hparse] at h
    | ok url => exact ⟨_, rfl⟩

/-- Settings that were accepted have at least one row to a screen. -/
theorem applyFlags_rows {s : Settings} {f : Flags} (h : (s.applyFlags f).2 = none) : 0 < (s.applyFlags f).1.rows := by
  obtain ⟨t, ht⟩ := applyServer_accepted h
  unfold applyFlags at h ⊢
  rw [ht] at h ⊢
  dsimp only at h ⊢
  split at h
  · simp at h
  · next hne => exact Nat.pos_of_ne_zero hne

end Settings

end RemoteShell
