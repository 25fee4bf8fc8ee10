import RibTree.Proofs.Console.Machine
import RibTree.Proofs.Host.Results
import RibTree.Proofs.Text.Utf8

/-!
# Settings on a machine

What keeps a command line from its settings is said by the calls to the machine: none of the places
where they are looked for is a file, the bytes of the first that is one cannot be read, or its text
is not that of settings. Loading the settings fails in these cases and in no other.
-/

namespace RibTree

set_option autoImplicit false

/-- Where the settings are looked for. -/
def CommandLine.settingsPlaces : Option Path → List Path
  | some path => [path]
  | none => usualPlaces

namespace Machine

section

variable {σ : Type} (machine : Machine (StateM σ))

/-- The first of some paths that is a file, if one is, and the state after it is looked for. -/
inductive Finds : List Path → σ → Option Path → σ → Prop
  | nowhere (before : σ) : Finds [] before none before
  | here {path : Path} {paths : List Path} {before after : σ} :
      (machine.isFile path).run before = (true, after) →
      Finds (path :: paths) before (some path) after
  | later {path : Path} {paths : List Path} {before between after : σ} {found : Option Path} :
      (machine.isFile path).run before = (false, between) → Finds paths between found after →
      Finds (path :: paths) before found after

/-- What comes of the settings, by the calls that the machine answers. -/
inductive Loads (asked : Option Path) (before : σ) : Except Problem Settings → σ → Prop
  | missing {after : σ} :
      machine.Finds (CommandLine.settingsPlaces asked) before none after →
      Loads asked before (.error (.settingsNotFound (asked.getD settingsName))) after
  | unreadable {path : Path} {reason : String} {between after : σ} :
      machine.Finds (CommandLine.settingsPlaces asked) before (some path) between →
      (machine.bytes path).run between = (.error reason, after) →
      Loads asked before (.error (.settingsUnreadable path reason)) after
  | undecodable {path folder : Path} {content : ByteArray} {e : SettingsFailure}
      {between next after : σ} :
      machine.Finds (CommandLine.settingsPlaces asked) before (some path) between →
      (machine.bytes path).run between = (.ok content, next) →
      Settings.ofText (CommandLine.unmarked (Text.ofBytes content)) = .error e →
      machine.workingFolder.run next = (folder, after) →
      Loads asked before
        (.error (.settingsUnreadable path (e.message (folder.relative path).text))) after
  | decoded {path : Path} {content : ByteArray} {s : Settings} {between after : σ} :
      machine.Finds (CommandLine.settingsPlaces asked) before (some path) between →
      (machine.bytes path).run between = (.ok content, after) →
      Settings.ofText (CommandLine.unmarked (Text.ofBytes content)) = .ok s →
      Loads asked before (.ok s) after

theorem exists_finds (paths : List Path) (before : σ) :
    ∃ found after, machine.Finds paths before found after := by
  induction paths generalizing before with
  | nil => exact ⟨none, before, .nowhere before⟩
  | cons path paths ih =>
      rcases hfile : (machine.isFile path).run before with ⟨there, between⟩
      cases there with
      | true => exact ⟨some path, between, .here hfile⟩
      | false =>
          obtain ⟨found, after, hlater⟩ := ih between
          exact ⟨found, after, .later hfile hlater⟩

theorem exists_loads (asked : Option Path) (before : σ) :
    ∃ q after, machine.Loads asked before q after := by
  obtain ⟨found, between, hfinds⟩ :=
    machine.exists_finds (CommandLine.settingsPlaces asked) before
  cases found with
  | none => exact ⟨_, _, .missing hfinds⟩
  | some path =>
      rcases hbytes : (machine.bytes path).run between with ⟨reason | content, next⟩
      · exact ⟨_, _, .unreadable hfinds hbytes⟩
      · cases htext : Settings.ofText (CommandLine.unmarked (Text.ofBytes content)) with
        | error e =>
            rcases hfolder : machine.workingFolder.run next with ⟨folder, after⟩
            exact ⟨_, _, .undecodable hfinds hbytes htext hfolder⟩
        | ok s => exact ⟨_, _, .decoded hfinds hbytes htext⟩

end

end Machine

namespace CommandLine

section

variable {σ : Type} {machine : Machine (StateM σ)} {asked : Option Path} {before after : σ}

theorem run_firstFile {paths : List Path} {found : Option Path}
    (h : machine.Finds paths before found after) :
    (firstFile machine paths).run before = (found, after) := by
  have hfirst : ∀ {path paths} {before : σ}, (firstFile machine (path :: paths)).run before =
      StateT.run (m := Id) (if ((machine.isFile path).run before).1 then pure (some path)
        else firstFile machine paths) ((machine.isFile path).run before).2 := fun {_ _ _} => rfl
  induction h with
  | nowhere => rfl
  | here hfile =>
      rw [hfirst, hfile]
      rfl
  | later hfile _ ih =>
      rw [hfirst, hfile]
      exact ih

theorem run_liftM {α : Type} {x : StateM σ α} {ended : α × σ} (h : x.run before = ended) :
    (liftM x : ExceptT Problem (StateM σ) α).run.run before = (.ok ended.1, ended.2) := by
  rw [← h]
  rfl

theorem run_findSettings {found : Option Path}
    (h : machine.Finds (settingsPlaces asked) before found after) :
    (findSettings machine asked).run.run before =
      (found.elim (.error (.settingsNotFound (asked.getD settingsName))) .ok, after) := by
  cases asked with
  | none =>
      refine (run_bind_of_eq_ok (run_liftM (run_firstFile h))).trans ?_
      cases found <;> rfl
  | some path =>
      cases h with
      | here hfile => exact run_bind_of_eq_ok (run_liftM hfile)
      | later hfile hlater =>
          cases hlater
          exact run_bind_of_eq_ok (run_liftM hfile)

theorem run_fileText {path : Path} {answer : Except String ByteArray}
    (h : (machine.bytes path).run before = (answer, after)) :
    (fileText machine Text.ofBytes path).run before =
      (answer.map fun content => unmarked (Text.ofBytes content), after) := by
  change ((((machine.bytes path).run before).1.map fun content =>
    unmarked (Text.ofBytes content), ((machine.bytes path).run before).2) : _ × σ) = _
  rw [h]

theorem run_loadSettings_of_loads {q : Except Problem Settings}
    (h : machine.Loads asked before q after) :
    (loadSettings machine asked).run.run before = (q, after) := by
  cases h with
  | missing hfinds => exact run_bind_of_eq_error (run_findSettings hfinds)
  | unreadable hfinds hbytes =>
      rw [loadSettings, run_bind_of_eq_ok (run_findSettings hfinds)]
      exact run_bind_of_eq_ok (run_liftM (run_fileText hbytes))
  | undecodable hfinds hbytes htext hfolder =>
      rw [loadSettings, run_bind_of_eq_ok (run_findSettings hfinds)]
      refine (run_bind_of_eq_ok (run_liftM (run_fileText hbytes))).trans ?_
      dsimp only [Except.map]
      rw [htext]
      exact run_bind_of_eq_ok (run_liftM hfolder)
  | decoded hfinds hbytes htext =>
      rw [loadSettings, run_bind_of_eq_ok (run_findSettings hfinds)]
      refine (run_bind_of_eq_ok (run_liftM (run_fileText hbytes))).trans ?_
      dsimp only [Except.map]
      rw [htext]
      rfl

/-- The settings are what comes of them by the calls of the machine, and nothing else. -/
theorem loads_iff {q : Except Problem Settings} :
    machine.Loads asked before q after ↔
      (loadSettings machine asked).run.run before = (q, after) := by
  constructor
  · exact run_loadSettings_of_loads
  · intro h
    obtain ⟨own, left, hloads⟩ := machine.exists_loads asked before
    obtain ⟨rfl, rfl⟩ := Prod.mk.inj (h.symm.trans (run_loadSettings_of_loads hloads))
    exact hloads

theorem exitCode_of_loads {e : Problem} (h : machine.Loads asked before (.error e) after) :
    e.exitCode = 1 := by
  cases h <;> rfl

end

theorem unmarked_ofBytes_toUTF8 {text : String} (hmark : text.toList.head? ≠ some '\ufeff') :
    unmarked (Text.ofBytes text.toUTF8) = text := by
  rw [Text.ofBytes_toUTF8, unmarked, if_neg hmark]

section

variable {σ : Type} {machine : Machine (StateM σ)} {before : σ} {text : String}
variable (hthere : (machine.isFile (Path.join ⟨"."⟩ settingsName)).run before = (true, before))
variable (hbytes : (machine.bytes (Path.join ⟨"."⟩ settingsName)).run before =
  (.ok text.toUTF8, before))
variable (hmark : text.toList.head? ≠ some '\ufeff')
include hthere hbytes hmark

/-- A file with the usual name gives the settings that its text gives. -/
theorem loads_of_file {s : Settings} (hsettings : (Settings.ofText text).toOption = some s) :
    machine.Loads none before (.ok s) before := by
  refine .decoded (.here hthere) hbytes ?_
  rw [unmarked_ofBytes_toUTF8 hmark]
  cases htext : Settings.ofText text with
  | error e =>
      rw [htext] at hsettings
      cases hsettings
  | ok own =>
      rw [htext] at hsettings
      rw [Option.some.inj hsettings]

/-- A file with the usual name fails as its text does. -/
theorem loads_of_broken_file {folder : Path} {reason : String}
    (hfolder : machine.workingFolder.run before = (folder, before))
    (hsettings : (Settings.ofText text).mapError (SettingsFailure.message
      (folder.relative (Path.join ⟨"."⟩ settingsName)).text) = .error reason) :
    machine.Loads none before
      (.error (.settingsUnreadable (Path.join ⟨"."⟩ settingsName) reason)) before := by
  cases htext : Settings.ofText text with
  | ok own =>
      rw [htext] at hsettings
      cases hsettings
  | error e =>
      rw [htext] at hsettings
      rw [← Except.error.inj hsettings]
      refine .undecodable (.here hthere) hbytes ?_ hfolder
      rw [unmarked_ofBytes_toUTF8 hmark, htext]

end

end CommandLine

end RibTree
