import StorageLayout.CommandLine.Command
import StorageLayout.Proofs.Lists

/-!
# Command lines that are understood

While the arguments of a command are read, every value is held against the option that it is given
to. So a command has only values that its options accept; in particular, the directory of the
snapshots is never the empty path.
-/
namespace StorageLayout.CommandLine

/-- An option of the grammar accepts a value for a name. -/
def Grammar.Accepts (g : Grammar) (name value : String) : Prop :=
  ∃ o ∈ g.options, o.name = name ∧ ∃ accepts, o.accepts = some accepts ∧ accepts value

/-- What has been read fits the grammar: each value is accepted, and an option of the grammar waits
for its value, if any does. -/
structure Reading.Fits (g : Grammar) (r : Reading) : Prop where
  accepted : ∀ name value, (name, some value) ∈ r.options → g.Accepts name value
  awaited : ∀ o, r.awaiting = some o → o ∈ g.options

variable {g : Grammar} {r r' : Reading}

namespace Reading.Fits

theorem blank (g : Grammar) : ({} : Reading).Fits g where
  accepted := by simp
  awaited := by simp

/-- An option is taken only with a value that it accepts. -/
theorem give (fits : r.Fits g) {o : OptionForm} (option : o ∈ g.options) {value : Option String}
    (given : r.give o value = .ok r') : r'.Fits g := by
  have added (test : ∀ v, value = some v → ∃ accepts, o.accepts = some accepts ∧ accepts v) :
      Fits g { r with options := r.options ++ [(o.name, value)], awaiting := none } := by
    refine ⟨fun name v listed => ?_, by simp⟩
    rcases List.mem_append.1 listed with listed | new
    · exact fits.accepted name v listed
    · obtain ⟨rfl, same⟩ := Prod.mk.inj (List.mem_singleton.1 new)
      exact ⟨o, option, rfl, test v same.symm⟩
  unfold Reading.give at given
  cases accepts : o.accepts with
  | none =>
    cases value with
    | none =>
      cases has : r.has o.name with
      | true => simp [has] at given
      | false =>
        simp only [accepts, has] at given
        obtain rfl := Except.ok.inj given
        exact added nofun
    | some v => simp [accepts] at given
  | some test =>
    cases value with
    | none => simp [accepts] at given
    | some v =>
      simp only [accepts] at given
      split at given
      · cases given
      · next taken =>
        obtain rfl := Except.ok.inj given
        refine added fun v' same => ⟨test, accepts, ?_⟩
        obtain rfl := Option.some.inj same
        simp_all

theorem operand (fits : r.Fits g) {text : String} (taken : g.operand r text = .ok r') :
    r'.Fits g := by
  unfold Grammar.operand at taken
  split at taken
  · cases taken
  · split at taken
    · obtain rfl := Except.ok.inj taken
      exact ⟨fits.accepted, fits.awaited⟩
    · cases taken

theorem await (fits : r.Fits g) {o : OptionForm} (option : o ∈ g.options) :
    ({ r with awaiting := some o } : Reading).Fits g where
  accepted := fits.accepted
  awaited o' awaiting := by
    obtain rfl := Option.some.inj awaiting
    exact option

/-- A group of letters gives options of the grammar only, with values that they accept. -/
theorem letters (fits : r.Fits g) {cs : List Char} (taken : g.letters cs r = .ok r') :
    r'.Fits g := by
  induction cs generalizing r with
  | nil =>
    obtain rfl := Except.ok.inj taken
    exact fits
  | cons c rest ih =>
    unfold Grammar.letters at taken
    split at taken
    · cases taken
    · split at taken
      · cases taken
      · next o found =>
        have option := List.mem_of_find?_eq_some found
        split at taken
        · obtain ⟨given, gave, taken⟩ := bind_eq_ok_iff.1 taken
          exact ih (fits.give option gave) taken
        · split at taken
          · obtain rfl := Except.ok.inj taken
            exact fits.await option
          · exact fits.give option taken
          · exact fits.give option taken

theorem long (fits : r.Fits g) {name : String} {value : Option String}
    (taken : g.long r name value = .ok r') : r'.Fits g := by
  unfold Grammar.long at taken
  split at taken
  · next o v found => exact fits.give (List.mem_of_find?_eq_some found) taken
  · next o found =>
    have option := List.mem_of_find?_eq_some found
    split at taken
    · exact fits.give option taken
    · obtain rfl := Except.ok.inj taken
      exact fits.await option
  · cases taken
  · cases taken

/-- No argument destroys the fit. -/
theorem step (fits : r.Fits g) {argument : String} (stepped : g.step r argument = .ok r') :
    r'.Fits g := by
  unfold Grammar.step at stepped
  split at stepped
  · next awaiting _ => exact fits.give (fits.awaited _ awaiting) stepped
  · cases stepped
  · exact fits.operand stepped
  · obtain rfl := Except.ok.inj stepped
    exact ⟨fits.accepted, fits.awaited⟩
  · exact fits.long stepped
  · exact fits.letters stepped
  · exact fits.operand stepped

end Reading.Fits

theorem Grammar.fits_of_read {arguments : List String} (ran : g.read arguments = .ok r) :
    r.Fits g := by
  obtain ⟨r', folded, ended⟩ := bind_eq_ok_iff.1 ran
  have fits : r'.Fits g :=
    foldlM_preserves (fun _ _ _ fits stepped => fits.step stepped) (.blank g) folded
  split at ended
  · cases ended
  · obtain rfl := Except.ok.inj ended
    exact fits

/-- A value that has been read is accepted by its option. -/
theorem Grammar.accepts_of_read {arguments : List String} (ran : g.read arguments = .ok r)
    {name value : String} (read : r.value? name = some value) : g.Accepts name value := by
  refine (Grammar.fits_of_read ran).accepted name value ?_
  cases found : r.options.lookup name with
  | none => simp [Reading.value?, found] at read
  | some held =>
    obtain rfl : held = some value := by simpa [Reading.value?, found] using read
    obtain ⟨before, after, whole, -⟩ := List.lookup_eq_some_iff.1 found
    simp [whole]

/-- The directory that a command is given, if it takes one. -/
def Command.directory? : Command → Option String
  | .exportFrom _ target => some target.directory
  | .list store | .tabulate store _ => some store.root
  | .compare .. => none

/-- No source of the directory gives an empty one: neither the option, nor the variable, nor the
default. -/
theorem directoryOf_ne_empty {environment : Environment} {directory : String}
    (accepted : ∀ value, r.value? "out-dir" = some value → value ≠ "")
    (found : directoryOf environment r = .ok directory) : directory ≠ "" := by
  unfold directoryOf at found
  split at found
  · next value read =>
    obtain rfl := Except.ok.inj found
    exact accepted value read
  · split at found
    · next fits =>
      obtain rfl := Except.ok.inj found
      simpa [CommandKind.isPath] using fits
    · cases found
  · obtain rfl := Except.ok.inj found
    decide

/-- Every command comes from the arguments of a kind of commands. -/
theorem exists_read_of_ofWords {environment : Environment} {arguments : List String}
    {verbose : Bool} {command : Command}
    (understood : Command.ofWords environment verbose arguments = .ok command) :
    ∃ kind rest, CommandKind.read environment kind rest = .ok command := by
  induction arguments generalizing verbose with
  | nil => cases understood
  | cons argument rest ih =>
    unfold Command.ofWords at understood
    split at understood
    · split at understood
      · next kind _ => exact ⟨kind, rest, understood⟩
      · cases understood
    · split at understood
      · cases understood
      · exact ih understood
    · cases understood
    · cases understood
    · obtain ⟨verbose', -, understood⟩ := bind_eq_ok_iff.1 understood
      exact ih understood
    · cases understood

theorem ne_empty_of_accepts {kind : CommandKind} {value : String}
    (accepts : kind.grammar.Accepts "out-dir" value) : value ≠ "" := by
  obtain ⟨o, option, name, test, tested, passed⟩ := accepts
  have path_tested : o.accepts = some CommandKind.isPath := by
    revert o
    cases kind <;>
      simp [CommandKind.grammar, CommandKind.directoryOption, CommandKind.verboseOption]
  obtain rfl := Option.some.inj (path_tested.symm.trans tested)
  simpa [CommandKind.isPath] using passed

/-- No command is given the empty path as the directory of the snapshots. -/
theorem directory_ne_empty {environment : Environment} {arguments : List String}
    {command : Command} (understood : Command.ofArguments environment arguments = .ok command)
    {directory : String} (takes : command.directory? = some directory) : directory ≠ "" := by
  obtain ⟨kind, rest, read⟩ := exists_read_of_ofWords understood
  obtain ⟨r, ran, commanded⟩ := bind_eq_ok_iff.1 read
  have accepted (value : String) (given : r.value? "out-dir" = some value) : value ≠ "" :=
    ne_empty_of_accepts (Grammar.accepts_of_read ran given)
  unfold CommandKind.command at commanded
  split at commanded
  · obtain ⟨found, read_directory, commanded⟩ := bind_eq_ok_iff.1 commanded
    split at commanded
    · cases commanded
    · obtain rfl := Except.ok.inj commanded
      obtain rfl := Option.some.inj takes
      exact directoryOf_ne_empty accepted read_directory
  · obtain rfl := Except.ok.inj commanded
    cases takes
  · obtain ⟨found, read_directory, commanded⟩ := bind_eq_ok_iff.1 commanded
    obtain rfl := Except.ok.inj commanded
    obtain rfl := Option.some.inj takes
    exact directoryOf_ne_empty accepted read_directory
  · obtain ⟨found, read_directory, commanded⟩ := bind_eq_ok_iff.1 commanded
    obtain rfl := Except.ok.inj commanded
    obtain rfl := Option.some.inj takes
    exact directoryOf_ne_empty accepted read_directory
  · cases commanded

end StorageLayout.CommandLine
