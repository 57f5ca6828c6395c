/-
# The command line

`parseArguments` (`src/CommandLine.c`, lines 84–242) turns the options `getopt_long` reports
into `CommandLineSettings`; `CommandLine_run` (lines 290–309) writes them into the settings.
`getopt_long` is libc's: its output is the input here, one `GetoptEvent` per turn of the loop
with `opt`, `optarg`, and the word `argv[optind]` that `-u` and `-H` may take (the events
after it already reflect the `optind++`).  Leaving the program is an `Except` error: `exit(0)`
after printing the help, the version or the sort keys, `exit(1)` after an error message or an
option the platform rejects.  `Process_fields`, `getpwnam`, `geteuid` and
`Platform_getLongOption` are a `CommandLineEnv`, so every result holds for each of them.

Main results:

* `parseArguments_flagsInv` : flags that parse are in range: the delay in `1 … 100`, the
  highlight delay at least 1, the sort key a named field, the user a real one;
* `parseArguments_error_sound` : every error message names the argument it rejects, and
  that argument is bad;
* `CommandLine_applyFlags_colorScheme` : the command line keeps a colour scheme in range, so
  the colours page opens (`ColorsPanel_new_inv`).
-/
import Htop.Bindings
import Htop.ColorsPanel

namespace Htop

/-! ## Reading numbers -/

/-- `isspace` in the C locale: space, and tab to carriage return. -/
def isspace (c : Char) : Bool := c = ' ' || (9 ≤ c.toNat && c.toNat ≤ 13)

/-- The value of the decimal digits at the front of `cs`; `none` when there is none. -/
def digitsValue (cs : List Char) : Option ℤ :=
  match cs.takeWhile Char.isDigit with
  | [] => none
  | ds => some (ds.foldl (fun v d => 10 * v + ((d.toNat - '0'.toNat : ℕ) : ℤ)) 0)

/-- An optional sign and then digits, as `strtol` reads them after the spaces. -/
def signedValue : List Char → Option ℤ
  | '-' :: ds => (digitsValue ds).map (- ·)
  | '+' :: ds => digitsValue ds
  | ds => digitsValue ds

/-- `sscanf(s, "%16d", &v) == 1`: the value read from at most 16 characters after the leading
spaces, or `none` when the match fails.  A value past the range of `int` is undefined in C;
the model keeps the integer. -/
def scanInt (s : String) : Option ℤ := signedValue ((s.toList.dropWhile isspace).take 16)

/-- `atoi(s)`: `0` when no number starts the string. -/
def atoi (s : String) : ℤ := (signedValue (s.toList.dropWhile isspace)).getD 0

/-! ## The flags -/

/-- `CommandLineSettings`; `pidMatchList` is the list of the keys put in the hashtable,
`none` while it is `NULL`. -/
structure CommandLineSettings where
  pidMatchList : Option (List UInt32)
  commFilter : Option String
  userId : UInt32
  sortKey : ℤ
  delay : ℤ
  useColors : Bool
  enableMouse : Bool
  treeView : Bool
  allowUnicode : Bool
  highlightChanges : Bool
  highlightDelaySecs : ℤ

/-- The flags `parseArguments` starts from. -/
def CommandLineSettings.initial : CommandLineSettings where
  pidMatchList := none
  commFilter := none
  userId := invalidUid
  sortKey := 0
  delay := -1
  useColors := true
  enableMouse := true
  treeView := false
  allowUnicode := true
  highlightChanges := false
  highlightDelaySecs := -1

/-- What one turn of the loop receives from `getopt_long`: the option, `optarg`, and
`argv[optind]` when `optind < argc`. -/
structure GetoptEvent where
  opt : ℤ
  optarg : Option String
  next : Option String

/-- The collaborators `parseArguments` calls: the names of `Process_fields` below
`LAST_PROCESSFIELD`, the password database, `geteuid()` and `Platform_getLongOption`. -/
structure CommandLineEnv where
  fieldName : ℕ → Option String
  LAST_PROCESSFIELD : ℕ
  getpwnam : String → Option UInt32
  geteuid : UInt32
  Platform_getLongOption : ℤ → Bool

/-- The errors `parseArguments` prints before `exit(1)`. -/
inductive CommandLineError
  | invalidColumn
  | invalidDelay
  | invalidUser
  | invalidHighlightDelay
  deriving DecidableEq, Repr

/-- The message printed on `stderr` for an error and the argument it rejects. -/
def CommandLineError.message : CommandLineError → String → String
  | .invalidColumn, arg => "Hata: geçersiz sütun \"" ++ arg ++ "\".\n"
  | .invalidDelay, arg => "Hata: geçersiz gecikme değeri \"" ++ arg ++ "\".\n"
  | .invalidUser, arg => "Hata: geçersiz kullanıcı\"" ++ arg ++ "\".\n"
  | .invalidHighlightDelay, arg => "Hata: geçersiz vurgulama gecikme değeri\"" ++ arg ++ "\".\n"

/-- How `parseArguments` leaves the program: after printing the help, the version or the
sort keys (`exit(0)`); after an error message or an option `Platform_getLongOption` rejects
(`exit(1)`); or reading an `optarg` that is `NULL`, which `getopt_long` never reports for an
option with a required argument. -/
inductive ParseExit
  | printHelp
  | printVersion
  | printSortKeys
  | error (e : CommandLineError) (arg : String)
  | platformRejects (opt : ℤ)
  | missingArgument
  deriving DecidableEq, Repr

/-- The first field `j` of `1 … LAST_PROCESSFIELD - 1` whose name is `name`, `0` when there
is none. -/
def findSortKey (env : CommandLineEnv) (name : String) : ℕ :=
  ((List.range' 1 (env.LAST_PROCESSFIELD - 1)).find? fun j => env.fieldName j == some name).getD 0

/-- The argument of `-u` and `-H`: `optarg`, or else the next word when it is not empty and
does not start with `-`. -/
def optionalArg (ev : GetoptEvent) : Option String :=
  match ev.optarg with
  | some arg => some arg
  | none => ev.next.filter fun w => match w.toList with
    | [] => false
    | c :: _ => c != '-'

/-- The clamp of `-d`: `if (d < 1) d = 1; if (d > 100) d = 100;`. -/
def clampDelay (d : ℤ) : ℤ :=
  let d := if d < 1 then 1 else d
  if d > 100 then 100 else d

/-- The clamp of `-H`: `if (d < 1) d = 1;`. -/
def clampHighlightDelay (d : ℤ) : ℤ := if d < 1 then 1 else d

/-- `case 's'`: the sort key named by the argument, or the list of keys with `yardım`
("help"). -/
def parseSortKey (env : CommandLineEnv) (flags : CommandLineSettings) :
    Option String → Except ParseExit CommandLineSettings
  | none => .error .missingArgument
  | some arg =>
    if arg = "yardım" then .error .printSortKeys
    else if findSortKey env arg = 0 then .error (.error .invalidColumn arg)
    else .ok { flags with sortKey := findSortKey env arg }

/-- `case 'd'`: the delay, clamped to `1 … 100`. -/
def parseDelay (flags : CommandLineSettings) :
    Option String → Except ParseExit CommandLineSettings
  | none => .error .missingArgument
  | some arg =>
    match scanInt arg with
    | some d => .ok { flags with delay := clampDelay d }
    | none => .error (.error .invalidDelay arg)

/-- `case 'u'`: the user named by the argument, or the effective user without one. -/
def parseUser (env : CommandLineEnv) (flags : CommandLineSettings) :
    Option String → Except ParseExit CommandLineSettings
  | none => .ok { flags with userId := env.geteuid }
  | some username =>
    let r := Action_setUserOnly env.getpwnam username
    if r.1 then .ok { flags with userId := r.2 } else .error (.error .invalidUser username)

/-- `case 'p'`: the comma-separated pids, each read by `atoi` and put in the hashtable as an
`unsigned int`. -/
def parsePidList (flags : CommandLineSettings) :
    Option String → Except ParseExit CommandLineSettings
  | none => .error .missingArgument
  | some arg =>
    let pids := ((arg.splitOn ",").filter (· ≠ "")).map fun pid =>
      UInt32.ofNat (atoi pid % 4294967296).toNat
    .ok { flags with pidMatchList := some (flags.pidMatchList.getD [] ++ pids) }

/-- `case 'F'`: the command filter. -/
def parseFilter (flags : CommandLineSettings) :
    Option String → Except ParseExit CommandLineSettings
  | none => .error .missingArgument
  | some arg => .ok { flags with commFilter := some arg }

/-- `case 'H'`: highlighting on, with the delay of the argument when there is one. -/
def parseHighlightChanges (flags : CommandLineSettings) :
    Option String → Except ParseExit CommandLineSettings
  | none => .ok { flags with highlightChanges := true }
  | some delay =>
    match scanInt delay with
    | some d =>
      .ok { flags with highlightDelaySecs := clampHighlightDelay d, highlightChanges := true }
    | none => .error (.error .invalidHighlightDelay delay)

/-- One turn of the loop of `parseArguments`: the `switch (opt)`. -/
def parseOption (env : CommandLineEnv) (flags : CommandLineSettings) (ev : GetoptEvent) :
    Except ParseExit CommandLineSettings :=
  if ev.opt = key 'h' then .error .printHelp
  else if ev.opt = key 'V' then .error .printVersion
  else if ev.opt = key 's' then parseSortKey env flags ev.optarg
  else if ev.opt = key 'd' then parseDelay flags ev.optarg
  else if ev.opt = key 'u' then parseUser env flags (optionalArg ev)
  else if ev.opt = key 'C' then .ok { flags with useColors := false }
  else if ev.opt = key 'M' then .ok { flags with enableMouse := false }
  else if ev.opt = key 'U' then .ok { flags with allowUnicode := false }
  else if ev.opt = key 't' then .ok { flags with treeView := true }
  else if ev.opt = key 'p' then parsePidList flags ev.optarg
  else if ev.opt = key 'F' then parseFilter flags ev.optarg
  else if ev.opt = key 'H' then parseHighlightChanges flags (optionalArg ev)
  else if env.Platform_getLongOption ev.opt then .ok flags
  else .error (.platformRejects ev.opt)

/-- The loop of `parseArguments`, which stops when `getopt_long` returns `EOF` (the end of the
events) or `0`. -/
def parseLoop (env : CommandLineEnv) : CommandLineSettings → List GetoptEvent →
    Except ParseExit CommandLineSettings
  | flags, [] => .ok flags
  | flags, ev :: evs =>
    if ev.opt = 0 ∨ ev.opt = -1 then .ok flags
    else (parseOption env flags ev).bind fun flags => parseLoop env flags evs

/-- `parseArguments(program, argc, argv)`. -/
def parseArguments (env : CommandLineEnv) (events : List GetoptEvent) :
    Except ParseExit CommandLineSettings :=
  parseLoop env CommandLineSettings.initial events

/-! ## Flags that parse are in range -/

/-- What a successful parse guarantees of the flags. -/
structure FlagsInv (env : CommandLineEnv) (flags : CommandLineSettings) : Prop where
  delay : flags.delay = -1 ∨ 1 ≤ flags.delay ∧ flags.delay ≤ 100
  highlightDelaySecs : flags.highlightDelaySecs = -1 ∨ 1 ≤ flags.highlightDelaySecs
  highlightChanges : flags.highlightDelaySecs ≠ -1 → flags.highlightChanges = true
  sortKey : flags.sortKey = 0 ∨ ∃ (j : ℕ) (name : String), flags.sortKey = (j : ℤ) ∧ 1 ≤ j ∧
    j < env.LAST_PROCESSFIELD ∧ env.fieldName j = some name
  userId : flags.userId = invalidUid ∨ flags.userId = env.geteuid ∨
    ∃ name, env.getpwnam name = some flags.userId

theorem flagsInv_initial (env : CommandLineEnv) : FlagsInv env CommandLineSettings.initial :=
  ⟨.inl rfl, .inl rfl, fun h => absurd rfl h, .inl rfl, .inl rfl⟩

theorem clampDelay_range (d : ℤ) : 1 ≤ clampDelay d ∧ clampDelay d ≤ 100 := by
  dsimp only [clampDelay]
  split_ifs <;> omega

/-- A sort key `findSortKey` finds is a named field below `LAST_PROCESSFIELD`. -/
theorem findSortKey_spec {env : CommandLineEnv} {name : String} (h : findSortKey env name ≠ 0) :
    1 ≤ findSortKey env name ∧ findSortKey env name < env.LAST_PROCESSFIELD ∧
      env.fieldName (findSortKey env name) = some name := by
  unfold findSortKey at h ⊢
  cases hf : (List.range' 1 (env.LAST_PROCESSFIELD - 1)).find?
      (fun j => env.fieldName j == some name) with
  | none => simp [hf] at h
  | some j =>
    have hmem := List.mem_range'_1.mp (List.mem_of_find?_eq_some hf)
    have hname : env.fieldName j = some name := by simpa using List.find?_some hf
    simp only [Option.getD_some]
    exact ⟨hmem.1, by omega, hname⟩

/-- A name `findSortKey` does not find is the name of no field. -/
theorem findSortKey_eq_zero {env : CommandLineEnv} {name : String} (h : findSortKey env name = 0)
    (j : ℕ) (hj : 1 ≤ j) (hlt : j < env.LAST_PROCESSFIELD) : env.fieldName j ≠ some name := by
  unfold findSortKey at h
  cases hf : (List.range' 1 (env.LAST_PROCESSFIELD - 1)).find?
      (fun j => env.fieldName j == some name) with
  | none =>
    have := List.find?_eq_none.mp hf j (List.mem_range'_1.mpr ⟨hj, by omega⟩)
    simpa using this
  | some k =>
    have hk := (List.mem_range'_1.mp (List.mem_of_find?_eq_some hf)).1
    simp [hf] at h
    omega

/-- A bind that succeeds ran both of its steps. -/
theorem except_bind_eq_ok {ε α β : Type} {x : Except ε α} {f : α → Except ε β} {b : β}
    (h : x.bind f = .ok b) : ∃ a, x = .ok a ∧ f a = .ok b := by
  cases x with
  | error e => cases h
  | ok a => exact ⟨a, rfl, h⟩

/-- A bind that fails failed in its first step, or in its second after the first succeeded. -/
theorem except_bind_eq_error {ε α β : Type} {x : Except ε α} {f : α → Except ε β} {e : ε}
    (h : x.bind f = .error e) : x = .error e ∨ ∃ a, x = .ok a ∧ f a = .error e := by
  cases x with
  | error e' => cases h; exact .inl rfl
  | ok a => exact .inr ⟨a, rfl, h⟩

/-- One `if` of the dispatch: the result is that of the branch its condition selects. -/
theorem ite_eq_cases {α : Type} {c : Prop} [Decidable c] {a b y : α}
    (h : (if c then a else b) = y) : c ∧ a = y ∨ ¬c ∧ b = y := by
  by_cases hc : c
  · exact .inl ⟨hc, by rwa [if_pos hc] at h⟩
  · exact .inr ⟨hc, by rwa [if_neg hc] at h⟩

theorem parseSortKey_flagsInv {env : CommandLineEnv} {flags flags' : CommandLineSettings}
    {optarg : Option String} (hinv : FlagsInv env flags)
    (h : parseSortKey env flags optarg = .ok flags') : FlagsInv env flags' := by
  rcases optarg with _ | arg
  · cases h
  · simp only [parseSortKey] at h
    split_ifs at h with _ hzero
    cases h
    exact { hinv with sortKey := .inr ⟨_, arg, rfl, findSortKey_spec hzero⟩ }

theorem parseDelay_flagsInv {env : CommandLineEnv} {flags flags' : CommandLineSettings}
    {optarg : Option String} (hinv : FlagsInv env flags)
    (h : parseDelay flags optarg = .ok flags') : FlagsInv env flags' := by
  rcases optarg with _ | arg
  · cases h
  · simp only [parseDelay] at h
    split at h
    · cases h
      exact { hinv with delay := .inr (clampDelay_range _) }
    · cases h

theorem parseUser_flagsInv {env : CommandLineEnv} {flags flags' : CommandLineSettings}
    {username : Option String} (hinv : FlagsInv env flags)
    (h : parseUser env flags username = .ok flags') : FlagsInv env flags' := by
  rcases username with _ | name
  · cases h
    exact { hinv with userId := .inr (.inl rfl) }
  · cases hg : env.getpwnam name with
    | none => simp [parseUser, Action_setUserOnly, hg] at h
    | some uid =>
      simp only [parseUser, Action_setUserOnly, hg, if_true, Except.ok.injEq] at h
      subst h
      exact { hinv with userId := .inr (.inr ⟨name, hg⟩) }

theorem parsePidList_flagsInv {env : CommandLineEnv} {flags flags' : CommandLineSettings}
    {optarg : Option String} (hinv : FlagsInv env flags)
    (h : parsePidList flags optarg = .ok flags') : FlagsInv env flags' := by
  rcases optarg with _ | arg
  · cases h
  · cases h
    exact { hinv with }

theorem parseFilter_flagsInv {env : CommandLineEnv} {flags flags' : CommandLineSettings}
    {optarg : Option String} (hinv : FlagsInv env flags)
    (h : parseFilter flags optarg = .ok flags') : FlagsInv env flags' := by
  rcases optarg with _ | arg
  · cases h
  · cases h
    exact { hinv with }

theorem parseHighlightChanges_flagsInv {env : CommandLineEnv} {flags flags' : CommandLineSettings}
    {optarg : Option String} (hinv : FlagsInv env flags)
    (h : parseHighlightChanges flags optarg = .ok flags') : FlagsInv env flags' := by
  rcases optarg with _ | arg
  · cases h
    exact { hinv with highlightChanges := fun _ => rfl }
  · simp only [parseHighlightChanges] at h
    split at h
    · rename_i d _
      cases h
      have : 1 ≤ clampHighlightDelay d := by unfold clampHighlightDelay; split_ifs <;> omega
      exact { hinv with highlightDelaySecs := .inr this, highlightChanges := fun _ => rfl }
    · cases h

/-- **One option keeps the flags in range.** -/
theorem parseOption_flagsInv {env : CommandLineEnv} {flags flags' : CommandLineSettings}
    {ev : GetoptEvent} (hinv : FlagsInv env flags) (h : parseOption env flags ev = .ok flags') :
    FlagsInv env flags' := by
  unfold parseOption at h
  rcases ite_eq_cases h with ⟨-, h⟩ | ⟨-, h⟩; · cases h
  rcases ite_eq_cases h with ⟨-, h⟩ | ⟨-, h⟩; · cases h
  rcases ite_eq_cases h with ⟨-, h⟩ | ⟨-, h⟩; · exact parseSortKey_flagsInv hinv h
  rcases ite_eq_cases h with ⟨-, h⟩ | ⟨-, h⟩; · exact parseDelay_flagsInv hinv h
  rcases ite_eq_cases h with ⟨-, h⟩ | ⟨-, h⟩; · exact parseUser_flagsInv hinv h
  rcases ite_eq_cases h with ⟨-, h⟩ | ⟨-, h⟩; · cases h; exact { hinv with }
  rcases ite_eq_cases h with ⟨-, h⟩ | ⟨-, h⟩; · cases h; exact { hinv with }
  rcases ite_eq_cases h with ⟨-, h⟩ | ⟨-, h⟩; · cases h; exact { hinv with }
  rcases ite_eq_cases h with ⟨-, h⟩ | ⟨-, h⟩; · cases h; exact { hinv with }
  rcases ite_eq_cases h with ⟨-, h⟩ | ⟨-, h⟩; · exact parsePidList_flagsInv hinv h
  rcases ite_eq_cases h with ⟨-, h⟩ | ⟨-, h⟩; · exact parseFilter_flagsInv hinv h
  rcases ite_eq_cases h with ⟨-, h⟩ | ⟨-, h⟩; · exact parseHighlightChanges_flagsInv hinv h
  rcases ite_eq_cases h with ⟨-, h⟩ | ⟨-, h⟩
  · cases h; exact { hinv with }
  · cases h

/-- **Flags that parse are in range**: for every stream of options `getopt_long` reports and
every environment, when `parseArguments` returns, the delay is unset or in `1 … 100`, the
highlight delay is unset or at least 1 (and then highlighting is on), the sort key is unset
or a named field below `LAST_PROCESSFIELD`, and the user is unset, the effective user, or a
uid the password database gives for some name. -/
theorem parseArguments_flagsInv (env : CommandLineEnv) (events : List GetoptEvent)
    {flags : CommandLineSettings} (h : parseArguments env events = .ok flags) :
    FlagsInv env flags := by
  suffices key : ∀ flags₀, FlagsInv env flags₀ → parseLoop env flags₀ events = .ok flags →
      FlagsInv env flags from key _ (flagsInv_initial env) h
  clear h
  induction events with
  | nil => rintro flags₀ hinv ⟨⟩; exact hinv
  | cons ev evs ih =>
    intro flags₀ hinv h
    simp only [parseLoop] at h
    split_ifs at h
    · cases h; exact hinv
    · obtain ⟨flags₁, hstep, hrest⟩ := except_bind_eq_ok h
      exact ih flags₁ (parseOption_flagsInv hinv hstep) hrest

/-- An environment whose one named field is `PID` (field 1), with an empty password database
and effective uid 1000. -/
def pidOnlyEnv : CommandLineEnv where
  fieldName := fun j => if j = 1 then some "PID" else none
  LAST_PROCESSFIELD := 2
  getpwnam := fun _ => none
  geteuid := 1000
  Platform_getLongOption := fun _ => false

/-- The options `getopt_long` reports for `htop -d 250 -s PID -u`. -/
def sampleArgs : List GetoptEvent :=
  [⟨key 'd', some "250", none⟩, ⟨key 's', some "PID", none⟩, ⟨key 'u', none, none⟩]

/-- `htop -d 250 -s PID -u` parses, with the delay clamped to 100. -/
theorem parseArguments_flagsInv_sample :
    ∃ flags, parseArguments pidOnlyEnv sampleArgs = .ok flags ∧ FlagsInv pidOnlyEnv flags ∧
      flags.delay = 100 :=
  ⟨_, rfl, parseArguments_flagsInv pidOnlyEnv sampleArgs rfl, rfl⟩

/-! ## Errors -/

/-- What an error of `parseArguments` says of the option it comes from and of the argument
its message names: the option, and why the argument is rejected. -/
def ErrorJustified (env : CommandLineEnv) (ev : GetoptEvent) : CommandLineError → String → Prop
  | .invalidColumn, arg => ev.opt = key 's' ∧ ev.optarg = some arg ∧ arg ≠ "yardım" ∧
    ∀ j, 1 ≤ j → j < env.LAST_PROCESSFIELD → env.fieldName j ≠ some arg
  | .invalidDelay, arg => ev.opt = key 'd' ∧ ev.optarg = some arg ∧ scanInt arg = none
  | .invalidUser, arg => ev.opt = key 'u' ∧ optionalArg ev = some arg ∧ env.getpwnam arg = none
  | .invalidHighlightDelay, arg =>
    ev.opt = key 'H' ∧ optionalArg ev = some arg ∧ scanInt arg = none

section Errors

variable {env : CommandLineEnv} {flags : CommandLineSettings} {ev : GetoptEvent}
  {e : CommandLineError} {arg : String}

theorem parseSortKey_error (hs : ev.opt = key 's')
    (h : parseSortKey env flags ev.optarg = .error (.error e arg)) : ErrorJustified env ev e arg := by
  cases hopt : ev.optarg with
  | none => simp [hopt, parseSortKey] at h
  | some a =>
    simp only [hopt, parseSortKey] at h
    split_ifs at h with hhelp hzero
    · cases h
    · simp only [Except.error.injEq, ParseExit.error.injEq] at h
      obtain ⟨rfl, rfl⟩ := h
      exact ⟨hs, hopt, hhelp, findSortKey_eq_zero hzero⟩

theorem parseDelay_error (hd : ev.opt = key 'd')
    (h : parseDelay flags ev.optarg = .error (.error e arg)) : ErrorJustified env ev e arg := by
  cases hopt : ev.optarg with
  | none => simp [hopt, parseDelay] at h
  | some a =>
    simp only [hopt, parseDelay] at h
    split at h
    · cases h
    · rename_i hscan
      simp only [Except.error.injEq, ParseExit.error.injEq] at h
      obtain ⟨rfl, rfl⟩ := h
      exact ⟨hd, hopt, hscan⟩

theorem parseUser_error (hu : ev.opt = key 'u')
    (h : parseUser env flags (optionalArg ev) = .error (.error e arg)) :
    ErrorJustified env ev e arg := by
  cases hopt : optionalArg ev with
  | none => simp [hopt, parseUser] at h
  | some name =>
    cases hg : env.getpwnam name with
    | none =>
      simp only [hopt, hg, parseUser, Action_setUserOnly, Bool.false_eq_true, if_false,
        Except.error.injEq, ParseExit.error.injEq] at h
      obtain ⟨rfl, rfl⟩ := h
      exact ⟨hu, hopt, hg⟩
    | some uid => simp [hopt, hg, parseUser, Action_setUserOnly] at h

theorem parseHighlightChanges_error (hH : ev.opt = key 'H')
    (h : parseHighlightChanges flags (optionalArg ev) = .error (.error e arg)) :
    ErrorJustified env ev e arg := by
  cases hopt : optionalArg ev with
  | none => simp [hopt, parseHighlightChanges] at h
  | some a =>
    simp only [hopt, parseHighlightChanges] at h
    split at h
    · cases h
    · rename_i hscan
      simp only [Except.error.injEq, ParseExit.error.injEq] at h
      obtain ⟨rfl, rfl⟩ := h
      exact ⟨hH, hopt, hscan⟩

/-- **An option's error is justified**: the message names the argument of that option, and
the argument is bad. -/
theorem parseOption_error_sound (h : parseOption env flags ev = .error (.error e arg)) :
    ErrorJustified env ev e arg := by
  unfold parseOption at h
  rcases ite_eq_cases h with ⟨-, h⟩ | ⟨-, h⟩; · cases h
  rcases ite_eq_cases h with ⟨-, h⟩ | ⟨-, h⟩; · cases h
  rcases ite_eq_cases h with ⟨hs, h⟩ | ⟨-, h⟩; · exact parseSortKey_error hs h
  rcases ite_eq_cases h with ⟨hd, h⟩ | ⟨-, h⟩; · exact parseDelay_error hd h
  rcases ite_eq_cases h with ⟨hu, h⟩ | ⟨-, h⟩; · exact parseUser_error hu h
  rcases ite_eq_cases h with ⟨-, h⟩ | ⟨-, h⟩; · cases h
  rcases ite_eq_cases h with ⟨-, h⟩ | ⟨-, h⟩; · cases h
  rcases ite_eq_cases h with ⟨-, h⟩ | ⟨-, h⟩; · cases h
  rcases ite_eq_cases h with ⟨-, h⟩ | ⟨-, h⟩; · cases h
  rcases ite_eq_cases h with ⟨-, h⟩ | ⟨-, h⟩; · cases hopt : ev.optarg <;> simp [hopt, parsePidList] at h
  rcases ite_eq_cases h with ⟨-, h⟩ | ⟨-, h⟩; · cases hopt : ev.optarg <;> simp [hopt, parseFilter] at h
  rcases ite_eq_cases h with ⟨hH, h⟩ | ⟨-, h⟩; · exact parseHighlightChanges_error hH h
  rcases ite_eq_cases h with ⟨-, h⟩ | ⟨-, h⟩ <;> cases h

end Errors

/-- **Every error of the command line is justified**: when `parseArguments` stops with an
error message, one of the options `getopt_long` reported has the argument the message
names, and that argument is bad for that option. -/
theorem parseArguments_error_sound (env : CommandLineEnv) (events : List GetoptEvent)
    {e : CommandLineError} {arg : String}
    (h : parseArguments env events = .error (.error e arg)) :
    ∃ ev ∈ events, ErrorJustified env ev e arg := by
  suffices key : ∀ flags₀, parseLoop env flags₀ events = .error (.error e arg) →
      ∃ ev ∈ events, ErrorJustified env ev e arg from key _ h
  clear h
  induction events with
  | nil => intro flags₀ h; cases h
  | cons ev evs ih =>
    intro flags₀ h
    simp only [parseLoop] at h
    split_ifs at h
    rcases except_bind_eq_error h with hstep | ⟨flags₁, -, hrest⟩
    · exact ⟨ev, List.mem_cons_self _ _, parseOption_error_sound hstep⟩
    · obtain ⟨ev', hmem, hj⟩ := ih flags₁ hrest
      exact ⟨ev', List.mem_cons_of_mem _ hmem, hj⟩

/-- `htop -t -d abc` stops with "Hata: geçersiz gecikme değeri \"abc\"." for the option `-d`. -/
example : parseArguments pidOnlyEnv [⟨key 't', none, none⟩, ⟨key 'd', some "abc", none⟩] =
    .error (.error .invalidDelay "abc") := rfl

/-! ## Into the settings -/

/-- `COLORSCHEME_MONOCHROME` (`CRT.h`), the second entry of `ColorSchemeNames`. -/
def COLORSCHEME_MONOCHROME : ℤ := 1

/-- The settings `CommandLine_run` writes from the flags; `Settings_setSortKey` is
`Settings.c`'s. -/
def CommandLine_applyFlags (Settings_setSortKey : Settings → ℤ → Settings)
    (flags : CommandLineSettings) (settings : Settings) : Settings :=
  let settings := if flags.delay ≠ -1 then settings.setNumber .delay flags.delay else settings
  let settings := if !flags.useColors then { settings with colorScheme := COLORSCHEME_MONOCHROME }
    else settings
  let settings := if !flags.enableMouse then settings.setFlag .enableMouse false else settings
  let settings := if flags.treeView then settings.setFlag .treeView true else settings
  let settings := if flags.highlightChanges then settings.setFlag .highlightChanges true
    else settings
  let settings := if flags.highlightDelaySecs ≠ -1 then
      settings.setNumber .highlightDelaySecs flags.highlightDelaySecs
    else settings
  if flags.sortKey > 0 then
    -- `-s` without `-t` means a list sorted by the key
    Settings_setSortKey (if !flags.treeView then settings.setFlag .treeView false else settings)
      flags.sortKey
  else settings

/-- The scheme after the command line: monochrome with `-C`, the one of the settings file
otherwise, when `Settings_setSortKey` keeps the scheme. -/
theorem CommandLine_applyFlags_colorScheme_eq {Settings_setSortKey : Settings → ℤ → Settings}
    (hsort : ∀ s k, (Settings_setSortKey s k).colorScheme = s.colorScheme)
    (flags : CommandLineSettings) (settings : Settings) :
    (CommandLine_applyFlags Settings_setSortKey flags settings).colorScheme =
      if !flags.useColors then COLORSCHEME_MONOCHROME else settings.colorScheme := by
  unfold CommandLine_applyFlags
  simp only [apply_ite Settings.colorScheme, hsort, Settings.setFlag_colorScheme,
    Settings.setNumber_colorScheme, ite_self]

/-- **The command line keeps the colour scheme in range**, so the colours page opens: from a
settings file whose scheme is one of the seven, for every flags and every `Settings_setSortKey`
that keeps the scheme, the scheme after `CommandLine_run` applies the flags is one of the
seven and `ColorsPanel_new` checks its row alone. -/
theorem CommandLine_applyFlags_colorScheme {Settings_setSortKey : Settings → ℤ → Settings}
    (hsort : ∀ s k, (Settings_setSortKey s k).colorScheme = s.colorScheme)
    (flags : CommandLineSettings) (settings : Settings)
    (hcs : 0 ≤ settings.colorScheme ∧ settings.colorScheme < LAST_COLORSCHEME) :
    ∃ this, ColorsPanel_new (CommandLine_applyFlags Settings_setSortKey flags settings) =
      some this ∧ ColorsInv this := by
  apply ColorsPanel_new_inv
  rw [CommandLine_applyFlags_colorScheme_eq hsort]
  split
  · exact ⟨by decide, by decide⟩
  · exact hcs

end Htop
