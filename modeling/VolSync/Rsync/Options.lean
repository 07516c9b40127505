import VolSync.Kube.Client
import VolSync.Meta

set_option autoImplicit false

/-!
# Rsync command options

`options.go`: the typed options of an rsync transfer and the argv they turn into.
`asRsyncCommandOptions` maps the boolean flags in a fixed order, then the bandwidth limit,
the human-readable flag, the log file, the `--info` list and the extra flags; the last two
are filtered through the two regular expressions of the source, `^[A-Z]+\d?$`
(`infoOptionMatches`) and `^\-{1,2}([a-z]+\-)?[a-z]+$` (`extraOptionMatches`), written
here as checks on the characters. Validation errors are collected, not returned early.

`TransferOptions.apply` runs each `TransferOption` in turn. Two of the options write the
other side's list: `DestinationPodSpecMutation` and `DestinationContainerMutation` set the
destination slice to `append(<source slice>, m)`, as the source does. That slice can share
the source slice's backing array (`AppendedSlices`).

* `asRsyncCommandOptions_spec`: **the argv and error law**: the argv the spec describes, one
  flattened error per rejected value, nil exactly when nothing is rejected.
* `AppendedSlices.empty_run_dest_of_last_set`: what a run of appends and sets leaves in the
  destination slice.
* `apply_mutation_lists`: **where `Apply` puts the mutations**: the source lists collect
  their options; a destination list is the source list at its last option, plus one.
-/

namespace VolSync

/-! ### The two regular expressions -/

def isUpperAscii (c : Char) : Bool := 'A' ≤ c && c ≤ 'Z'

def isLowerAscii (c : Char) : Bool := 'a' ≤ c && c ≤ 'z'

/-- `\d` of Go's RE2: an ASCII digit. -/
def isDigitAscii (c : Char) : Bool := '0' ≤ c && c ≤ '9'

/-- `^[A-Z]+\d?$` on the characters of the value. The run of capitals is greedy, and what
follows it may only be one digit. -/
def infoOptionMatches (s : String) : Bool :=
  match s.toList.span isUpperAscii with
  | ([], _) => false
  | (_, []) => true
  | (_, [d]) => isDigitAscii d
  | _ => false

/-- `([a-z]+\-)?[a-z]+$`, what follows the leading dashes of an extra flag. -/
def extraOptionBody (cs : List Char) : Bool :=
  match cs.span isLowerAscii with
  | ([], _) => false
  | (_, []) => true
  | (_, '-' :: rest) => !rest.isEmpty && rest.all isLowerAscii
  | _ => false

/-- `^\-{1,2}([a-z]+\-)?[a-z]+$`. The body starts with a letter, so the number of
leading dashes is fixed by the value. -/
def extraOptionMatches (s : String) : Bool :=
  match s.toList with
  | '-' :: '-' :: body => extraOptionBody body
  | '-' :: body => extraOptionBody body
  | _ => false

/-! ### What the two expressions match

The languages of the two expressions, read off their syntax, and the lemmas that the
checks above decide them. -/

/-- The strings `^[A-Z]+\d?$` matches: one or more capitals, then nothing or one digit. -/
def InfoPattern (s : String) : Prop :=
  ∃ caps rest, s.toList = caps ++ rest ∧ caps ≠ [] ∧ (∀ c ∈ caps, isUpperAscii c = true) ∧
    (rest = [] ∨ ∃ d, rest = [d] ∧ isDigitAscii d = true)

/-- `[a-z]+`. -/
def LowerWord (w : List Char) : Prop := w ≠ [] ∧ ∀ c ∈ w, isLowerAscii c = true

/-- The strings `^\-{1,2}([a-z]+\-)?[a-z]+$` matches: one or two dashes, then a run of
lower-case letters, or two such runs joined by a dash. -/
def ExtraPattern (s : String) : Prop :=
  ∃ dashes body, s.toList = dashes ++ body ∧ (dashes = ['-'] ∨ dashes = ['-', '-']) ∧
    (LowerWord body ∨ ∃ a b, body = a ++ '-' :: b ∧ LowerWord a ∧ LowerWord b)

theorem span_append_of_all {p : Char → Bool} {a b : List Char} (ha : ∀ c ∈ a, p c = true)
    (hb : ∀ c ∈ b.head?, p c = false) : (a ++ b).span p = (a, b) := by
  rw [List.span_eq_take_drop, List.takeWhile_append_of_pos ha, List.dropWhile_append_of_pos ha]
  cases b with
  | nil => simp
  | cons c b => simp [hb c rfl]

theorem span_fst_all {p : Char → Bool} {l pre post : List Char} (h : l.span p = (pre, post)) :
    l = pre ++ post ∧ ∀ c ∈ pre, p c = true := by
  rw [List.span_eq_take_drop, Prod.mk.injEq] at h
  exact ⟨h.1 ▸ h.2 ▸ (List.takeWhile_append_dropWhile p l).symm,
    fun c hc => List.mem_takeWhile_imp (h.1 ▸ hc)⟩

theorem isUpperAscii_of_isDigitAscii {d : Char} (h : isDigitAscii d = true) :
    isUpperAscii d = false := by
  simp only [isDigitAscii, Bool.and_eq_true, decide_eq_true_eq] at h
  simp only [isUpperAscii, Bool.and_eq_false_iff, decide_eq_false_iff_not]
  exact .inl fun hA => absurd (Char.le_trans hA h.2) (by decide)

/-- `infoOptionMatches` decides `^[A-Z]+\d?$`. -/
theorem infoOptionMatches_iff (s : String) : infoOptionMatches s = true ↔ InfoPattern s := by
  unfold infoOptionMatches InfoPattern
  rcases hsp : s.toList.span isUpperAscii with ⟨pre, post⟩
  obtain ⟨hs, hpre⟩ := span_fst_all hsp
  constructor
  · intro h
    rcases pre with _ | ⟨c, pre⟩
    · simp at h
    · rcases post with _ | ⟨d, _ | ⟨e, post⟩⟩
      · exact ⟨c :: pre, [], hs, List.cons_ne_nil _ _, hpre, .inl rfl⟩
      · exact ⟨c :: pre, [d], hs, List.cons_ne_nil _ _, hpre, .inr ⟨d, rfl, h⟩⟩
      · cases h
  · rintro ⟨caps, rest, hs', hne, hcaps, hrest⟩
    have hspan : s.toList.span isUpperAscii = (caps, rest) := by
      rw [hs']
      refine span_append_of_all hcaps fun c hc => ?_
      rcases hrest with rfl | ⟨d, rfl, hd⟩
      · cases hc
      · cases Option.mem_some_iff.mp hc
        exact isUpperAscii_of_isDigitAscii hd
    obtain ⟨rfl, rfl⟩ := Prod.mk.inj (hsp.symm.trans hspan)
    obtain ⟨c, caps, rfl⟩ := List.exists_cons_of_ne_nil hne
    rcases hrest with rfl | ⟨d, rfl, hd⟩
    · rfl
    · exact hd

theorem extraOptionBody_iff (cs : List Char) : extraOptionBody cs = true ↔
    LowerWord cs ∨ ∃ a b, cs = a ++ '-' :: b ∧ LowerWord a ∧ LowerWord b := by
  unfold extraOptionBody
  rcases hsp : cs.span isLowerAscii with ⟨pre, post⟩
  obtain ⟨hs, hpre⟩ := span_fst_all hsp
  constructor
  · intro h
    rcases pre with _ | ⟨c, pre⟩
    · simp at h
    · rcases post with _ | ⟨x, rest⟩
      · exact .inl ⟨by simp [hs], by simpa [hs] using hpre⟩
      · by_cases hx : x = '-'
        · subst hx
          simp only [Bool.and_eq_true, Bool.not_eq_true', List.isEmpty_eq_false,
            List.all_eq_true] at h
          exact .inr ⟨c :: pre, rest, hs, ⟨List.cons_ne_nil _ _, hpre⟩, ⟨h.1, h.2⟩⟩
        · simp [hx] at h
  · rintro (⟨hne, hw⟩ | ⟨a, b, rfl, ⟨hna, ha⟩, ⟨hnb, hb⟩⟩)
    · have hspan : cs.span isLowerAscii = (cs, []) := by
        simpa using span_append_of_all (b := []) hw fun _ hc => by cases hc
      obtain ⟨rfl, rfl⟩ := Prod.mk.inj (hsp.symm.trans hspan)
      obtain ⟨c, cs, rfl⟩ := List.exists_cons_of_ne_nil hne
      rfl
    · have hspan := span_append_of_all (b := '-' :: b) ha fun c hc => by
        cases Option.mem_some_iff.mp hc; rfl
      obtain ⟨rfl, rfl⟩ := Prod.mk.inj (hsp.symm.trans hspan)
      obtain ⟨c, a, rfl⟩ := List.exists_cons_of_ne_nil hna
      simpa [hnb] using hb

theorem head_ne_dash_of_extraOptionBody {c : Char} {cs : List Char}
    (h : extraOptionBody (c :: cs) = true) : c ≠ '-' := by
  rintro rfl
  rcases (extraOptionBody_iff _).mp h with ⟨-, hw⟩ | ⟨a, b, hab, ⟨hna, ha⟩, -⟩
  · exact absurd (hw '-' (.head _)) (by decide)
  · obtain ⟨x, a, rfl⟩ := List.exists_cons_of_ne_nil hna
    cases (List.cons.inj hab).1
    exact absurd (ha '-' (.head _)) (by decide)

/-- `extraOptionMatches` decides `^\-{1,2}([a-z]+\-)?[a-z]+$`. -/
theorem extraOptionMatches_iff (s : String) : extraOptionMatches s = true ↔ ExtraPattern s := by
  unfold extraOptionMatches ExtraPattern
  constructor
  · split
    · rename_i body hs
      exact fun h => ⟨['-', '-'], body, hs, .inr rfl, (extraOptionBody_iff body).mp h⟩
    · rename_i body _ hs
      exact fun h => ⟨['-'], body, hs, .inl rfl, (extraOptionBody_iff body).mp h⟩
    · intro h; cases h
  · rintro ⟨dashes, body, hs, rfl | rfl, hb⟩
    · rw [← extraOptionBody_iff] at hb
      cases body with
      | nil => cases hb
      | cons c body =>
        have hc := head_ne_dash_of_extraOptionBody hb
        rw [hs]
        split
        · rename_i heq
          exact absurd (List.cons.inj (List.cons.inj heq).2).1 hc
        · rename_i heq
          rw [← (List.cons.inj heq).2]
          exact hb
        · rename_i _ hn
          exact (hn _ rfl).elim
    · rw [hs]
      exact (extraOptionBody_iff body).mpr hb
instance : DecidablePred InfoPattern := fun s => decidable_of_iff _ (infoOptionMatches_iff s)

instance : DecidablePred ExtraPattern := fun s => decidable_of_iff _ (extraOptionMatches_iff s)

theorem decide_infoPattern (s : String) : decide (InfoPattern s) = infoOptionMatches s := by
  rw [Bool.eq_iff_iff, decide_eq_true_iff, infoOptionMatches_iff]

theorem decide_extraPattern (s : String) : decide (ExtraPattern s) = extraOptionMatches s := by
  rw [Bool.eq_iff_iff, decide_eq_true_iff, extraOptionMatches_iff]

/-! ### Command options -/

/-- `CommandOptions`. `keepPartial` is the field `Partial` (the word is reserved in Lean);
`bwLimit` is the `*int`. -/
structure CommandOptions where
  recursive : Bool
  symLinks : Bool
  permissions : Bool
  modTimes : Bool
  deviceFiles : Bool
  specialFiles : Bool
  groups : Bool
  owners : Bool
  hardLinks : Bool
  delete : Bool
  keepPartial : Bool
  bwLimit : Option Int
  humanReadable : Bool
  logFile : String
  info : List String
  extras : List String
  deriving DecidableEq, Repr

/-- The zero value of `CommandOptions`. -/
def CommandOptions.empty : CommandOptions :=
  ⟨false, false, false, false, false, false, false, false, false, false, false, none, false,
    "", [], []⟩

/-- `filterRsyncInfoOptions`: the matching values, in order, and one error per other
value. (`strings.TrimSpace` of a matching value is the value: the expression admits no
white space.) -/
def filterRsyncInfoOptions (options : List String) : List String × Option Error :=
  (options.filter infoOptionMatches,
    newAggregate ((options.filter (!infoOptionMatches ·)).map fun opt =>
      some (.msg ("invalid value " ++ opt ++ " for Rsync option --info"))))

def filterRsyncExtraOptions (options : List String) : List String × Option Error :=
  (options.filter extraOptionMatches,
    newAggregate ((options.filter (!extraOptionMatches ·)).map fun opt =>
      some (.msg ("invalid Rsync option " ++ opt))))

/-- The boolean flags of `AsRsyncCommandOptions`, in the order the source appends them. -/
def CommandOptions.flagOptions (c : CommandOptions) : List String :=
  (if c.recursive then ["--recursive"] else []) ++
  (if c.symLinks then ["--links"] else []) ++
  (if c.permissions then ["--perms"] else []) ++
  (if c.deviceFiles then ["--devices"] else []) ++
  (if c.specialFiles then ["--specials"] else []) ++
  (if c.modTimes then ["--times"] else []) ++
  (if c.owners then ["--owner"] else []) ++
  (if c.groups then ["--group"] else []) ++
  (if c.hardLinks then ["--hard-links"] else []) ++
  (if c.delete then ["--delete"] else []) ++
  (if c.keepPartial then ["--partial"] else [])

/-- The `--bwlimit` part: the flag for a positive limit, an error for any other. -/
def CommandOptions.bwLimitOption (c : CommandOptions) : List String × List (Option Error) :=
  match c.bwLimit with
  | none => ([], [])
  | some n =>
    if 0 < n then (["--bwlimit=" ++ toString n], [])
    else ([], [some (.msg "rsync bwlimit value must be a positive integer")])

/-- The `--info` part: when the list is not empty, one flag joining the matching values. -/
def CommandOptions.infoOption (c : CommandOptions) : List String × List (Option Error) :=
  if c.info.isEmpty then ([], [])
  else
    let r := filterRsyncInfoOptions c.info
    (["--info=" ++ ",".intercalate r.1], [r.2])

/-- The extra flags: the matching ones, when the list is not empty. -/
def CommandOptions.extraOptions (c : CommandOptions) : List String × List (Option Error) :=
  if c.extras.isEmpty then ([], [])
  else
    let r := filterRsyncExtraOptions c.extras
    (r.1, [r.2])

def CommandOptions.asRsyncCommandOptions (c : CommandOptions) : List String × Option Error :=
  (c.flagOptions ++ c.bwLimitOption.1 ++
      (if c.humanReadable then ["--human-readable"] else []) ++
      (if c.logFile ≠ "" then ["--log-file=" ++ c.logFile] else []) ++
      c.infoOption.1 ++ c.extraOptions.1,
    newAggregate (c.bwLimitOption.2 ++ c.infoOption.2 ++ c.extraOptions.2))

/-! ### What `AsRsyncCommandOptions` produces

The spec's reading of the argv and of the errors, as definitions of their own, and the law
that the code meets it. -/

/-- The boolean flags with their fields, in the fixed order the code appends them (the spec's
list has `--times` fourth and `--partial` before `--delete`). -/
def rsyncFlags : List ((CommandOptions → Bool) × String) :=
  [(CommandOptions.recursive, "--recursive"), (CommandOptions.symLinks, "--links"),
   (CommandOptions.permissions, "--perms"), (CommandOptions.deviceFiles, "--devices"),
   (CommandOptions.specialFiles, "--specials"), (CommandOptions.modTimes, "--times"),
   (CommandOptions.owners, "--owner"), (CommandOptions.groups, "--group"),
   (CommandOptions.hardLinks, "--hard-links"), (CommandOptions.delete, "--delete"),
   (CommandOptions.keepPartial, "--partial")]

/-- The argv the spec describes: the flags set, in the fixed order; `--bwlimit=N` for a
positive limit; `--human-readable` and `--log-file` when set; when `Info` is not empty,
`--info=` and the values of `InfoPattern` joined by commas; the extras of `ExtraPattern`. -/
def CommandOptions.expectedArgv (c : CommandOptions) : List String :=
  (rsyncFlags.filter fun f => f.1 c).map Prod.snd ++
  (match c.bwLimit with
   | some n => if 0 < n then ["--bwlimit=" ++ toString n] else []
   | none => []) ++
  (if c.humanReadable then ["--human-readable"] else []) ++
  (if c.logFile = "" then [] else ["--log-file=" ++ c.logFile]) ++
  (if c.info = [] then [] else ["--info=" ++ ",".intercalate (c.info.filter (InfoPattern ·))]) ++
  c.extras.filter (ExtraPattern ·)

/-- A value the options reject. -/
inductive Rejected
  | bwLimit (n : Int)
  | info (value : String)
  | extra (value : String)
  deriving DecidableEq, Repr

/-- The values `c` rejects, in the order they are checked: a non-positive bandwidth limit,
then each `Info` value and each extra flag its expression does not match. -/
def CommandOptions.rejected (c : CommandOptions) : List Rejected :=
  (match c.bwLimit with
   | some n => if 0 < n then [] else [.bwLimit n]
   | none => []) ++
  (c.info.filter (¬ InfoPattern ·)).map .info ++
  (c.extras.filter (¬ ExtraPattern ·)).map .extra

/-- The error the code reports for a rejected value. -/
def Rejected.error : Rejected → Error
  | .bwLimit _ => .msg "rsync bwlimit value must be a positive integer"
  | .info v => .msg ("invalid value " ++ v ++ " for Rsync option --info")
  | .extra v => .msg ("invalid Rsync option " ++ v)

theorem flagOptions_eq (c : CommandOptions) :
    c.flagOptions = (rsyncFlags.filter fun f => f.1 c).map Prod.snd := by
  have table : ∀ l : List ((CommandOptions → Bool) × String),
      (l.filter fun f => f.1 c).map Prod.snd = (l.map fun f => if f.1 c then [f.2] else []).flatten := by
    intro l
    induction l with
    | nil => rfl
    | cons f l ih => by_cases h : f.1 c <;> simp [List.filter_cons, h, ih]
  simp [table, rsyncFlags, CommandOptions.flagOptions]

namespace CommandOptions

variable (c : CommandOptions)

/-! Each part of the argv and of the errors, on its own. -/

theorem infoOption_fst : c.infoOption.1 =
    if c.info = [] then [] else ["--info=" ++ ",".intercalate (c.info.filter infoOptionMatches)] := by
  unfold infoOption filterRsyncInfoOptions; cases c.info <;> rfl

theorem extraOptions_fst : c.extraOptions.1 = c.extras.filter extraOptionMatches := by
  unfold extraOptions filterRsyncExtraOptions; cases c.extras <;> rfl

theorem infoOption_flatten : (c.infoOption.2.map flattenAggregate).flatten =
    ((c.info.filter (!infoOptionMatches ·)).map Rejected.info).map Rejected.error := by
  unfold infoOption filterRsyncInfoOptions
  split
  · simp_all
  · simp [Rejected.error, Function.comp_def, ← List.flatMap_def, ← List.map_eq_flatMap]

theorem extraOptions_flatten : (c.extraOptions.2.map flattenAggregate).flatten =
    ((c.extras.filter (!extraOptionMatches ·)).map Rejected.extra).map Rejected.error := by
  unfold extraOptions filterRsyncExtraOptions
  split
  · simp_all
  · simp [Rejected.error, Function.comp_def, ← List.flatMap_def, ← List.map_eq_flatMap]

theorem infoOption_none :
    (∀ e ∈ c.infoOption.2, e = none) ↔ c.info.filter (!infoOptionMatches ·) = [] := by
  unfold infoOption filterRsyncInfoOptions
  split
  · simp_all
  · simp [-newAggregate_eq_none]

theorem extraOptions_none :
    (∀ e ∈ c.extraOptions.2, e = none) ↔ c.extras.filter (!extraOptionMatches ·) = [] := by
  unfold extraOptions filterRsyncExtraOptions
  split
  · simp_all
  · simp [-newAggregate_eq_none]

end CommandOptions

theorem asRsyncCommandOptions_argv (c : CommandOptions) :
    c.asRsyncCommandOptions.1 = c.expectedArgv := by
  simp only [CommandOptions.asRsyncCommandOptions, CommandOptions.expectedArgv, flagOptions_eq,
    CommandOptions.infoOption_fst, CommandOptions.extraOptions_fst, ne_eq, ite_not,
    CommandOptions.bwLimitOption,
    decide_not, decide_infoPattern, decide_extraPattern]
  rcases c.bwLimit with _ | n
  · rfl
  · by_cases h : 0 < n <;> simp [h]

/-- The three error sources, flattened: the bandwidth error, then one error per rejected
`Info` value and per rejected extra flag. -/
theorem asRsyncCommandOptions_flatten (c : CommandOptions) :
    flattenAggregate c.asRsyncCommandOptions.2 = c.rejected.map Rejected.error := by
  simp only [CommandOptions.asRsyncCommandOptions, flattenAggregate_newAggregate, List.map_append,
    List.flatten_append, CommandOptions.infoOption_flatten, CommandOptions.extraOptions_flatten,
    CommandOptions.rejected, CommandOptions.bwLimitOption,
    decide_not, decide_infoPattern, decide_extraPattern]
  rcases c.bwLimit with _ | n
  · rfl
  · by_cases h : 0 < n <;> simp [h, Rejected.error]

/-- **The argv and error law of `AsRsyncCommandOptions`**: the argv is the spec's, flattening
the error gives one error per rejected value, in order, and the error is nil exactly when
nothing is rejected. -/
theorem asRsyncCommandOptions_spec (c : CommandOptions) :
    c.asRsyncCommandOptions.1 = c.expectedArgv ∧
    flattenAggregate c.asRsyncCommandOptions.2 = c.rejected.map Rejected.error ∧
    (c.asRsyncCommandOptions.2 = none ↔ c.rejected = []) := by
  refine ⟨asRsyncCommandOptions_argv c, asRsyncCommandOptions_flatten c, ?_⟩
  simp only [CommandOptions.asRsyncCommandOptions, newAggregate_eq_none, List.mem_append, or_imp,
    forall_and, CommandOptions.infoOption_none, CommandOptions.extraOptions_none,
    CommandOptions.rejected, List.append_eq_nil, List.map_eq_nil_iff, CommandOptions.bwLimitOption,
    decide_not, decide_infoPattern, decide_extraPattern]
  rcases c.bwLimit with _ | n
  · simp
  · by_cases h : 0 < n <;> simp [h]

/-! ### Slices that share a backing array

`DestinationPodSpecMutation.ApplyTo` sets `DestinationPodMutations` to
`append(SourcePodMutations, m)`, and `DestinationContainerMutation` does the same with the
container lists. Go's `append` writes in place when the slice's backing array has room, and
the slice it returns views that array; the next `append` to the source slice then writes
over the destination's last element. `AppendedSlices` keeps what decides this. -/

/-- The sizes of the allocator's small size classes, in bytes (`class_to_size` of the Go 1.16
runtime, the release the repository builds with: `src/mover-rclone/Dockerfile`). -/
def classToSize : List Nat :=
  [0, 8, 16, 24, 32, 48, 64, 80, 96, 112, 128, 144, 160, 176, 192, 208, 224, 240, 256, 288, 320,
   352, 384, 416, 448, 480, 512, 576, 640, 704, 768, 896, 1024, 1152, 1280, 1408, 1536, 1792,
   2048, 2304, 2688, 3072, 3200, 3456, 4096, 4864, 5376, 6144, 6528, 6784, 6912, 8192, 9472,
   9728, 10240, 10880, 12288, 13568, 14336, 16384, 18432, 19072, 20480, 21760, 24576, 27264,
   28672, 32768]

/-- `roundupsize`: the bytes the allocator gives a request of `size` bytes, the least size
class that holds it below 32768 bytes, whole 8192-byte pages above. -/
def roundupsize (size : Nat) : Nat :=
  if size < 32768 then (classToSize.find? (size ≤ ·)).getD size
  else (size + 8191) / 8192 * 8192

/-- The capacity Go's `append` gives a full slice of `n` interface values (16 bytes each)
when it copies it to a new array: `growslice` asks for one element for an empty slice, twice
the length below 1024 elements and a quarter more above, then keeps all the elements the
allocator's rounding of that array fits. -/
def growCap (n : Nat) : Nat :=
  let newcap := if n = 0 then 1 else if n < 1024 then 2 * n else n + n / 4
  roundupsize (16 * newcap) / 16

/-- Doubling up to 1024 elements, then a quarter more and the rounding to size classes. -/
example : growCap 512 = 1024 ∧ growCap 1024 = 1280 ∧ growCap 1280 = 1704 ∧ growCap 1704 = 2560 := by
  decide

/-- The capacity of a slice that `n` appends built from nil. -/
def capAfter : Nat → Nat
  | 0 => 0
  | n + 1 => if n < capAfter n then capAfter n else growCap n

/-- A slice that options append to (`source`) and one that an option sets to
`append(source, m)` (`dest`): their elements, the capacity of `source`'s backing array, and
whether `dest` views that array. -/
structure AppendedSlices (α : Type) where
  source : List α
  dest : List α
  cap : Nat
  shared : Bool
  deriving DecidableEq, Repr

namespace AppendedSlices

variable {α : Type}

def empty : AppendedSlices α := ⟨[], [], 0, false⟩

/-- `source = append(source, m)`: in place when the array has room, where a `dest` viewing
the array sees `m`; otherwise into a new array, which `dest` does not view. -/
def appendSource (p : AppendedSlices α) (m : α) : AppendedSlices α :=
  if p.source.length < p.cap then
    { p with
      source := p.source ++ [m]
      dest := if p.shared then p.dest.set p.source.length m else p.dest }
  else { p with source := p.source ++ [m], cap := growCap p.source.length, shared := false }

/-- `dest = append(source, m)`: a view of `source`'s array when it has room, a new array
otherwise. -/
def setDest (p : AppendedSlices α) (m : α) : AppendedSlices α :=
  { p with dest := p.source ++ [m], shared := decide (p.source.length < p.cap) }

end AppendedSlices

/-! ### Transfer options -/

/-- `TransferOptions`. The meta mutations are Go interfaces, nil until an option sets
them. `podMutations` holds `SourcePodMutations` and `DestinationPodMutations`,
`containerMutations` holds `SourceContainerMutations` and `DestContainerMutations`. -/
structure TransferOptions extends CommandOptions where
  sourcePodMeta : Option ObjectMetaMutation
  destinationPodMeta : Option ObjectMetaMutation
  podMutations : AppendedSlices PodSpecMutation
  containerMutations : AppendedSlices ContainerMutation
  username : String
  password : String
  deriving DecidableEq, Repr

namespace TransferOptions

def sourcePodMutations (o : TransferOptions) : List PodSpecMutation := o.podMutations.source

def destinationPodMutations (o : TransferOptions) : List PodSpecMutation := o.podMutations.dest

def sourceContainerMutations (o : TransferOptions) : List ContainerMutation :=
  o.containerMutations.source

def destContainerMutations (o : TransferOptions) : List ContainerMutation :=
  o.containerMutations.dest

end TransferOptions

/-- The zero value `TransferOptions{}`. -/
def TransferOptions.empty : TransferOptions :=
  { CommandOptions.empty with
    sourcePodMeta := none, destinationPodMeta := none, podMutations := .empty
    containerMutations := .empty, username := "", password := "" }

/-- The implementations of `TransferOption` in `options.go`. `keepPartial` is the type
`Partial`. -/
inductive TransferOption
  | archiveFiles (a : Bool)
  | preserveOwnership (p : Bool)
  | standardProgress (s : Bool)
  | deleteDestination (d : Bool)
  | hardLinks (h : Bool)
  | keepPartial (p : Bool)
  | sourcePodSpecMutation (spec : PodSpec)
  | destinationPodSpecMutation (spec : PodSpec)
  | sourceContainerMutation (c : Container)
  | destinationContainerMutation (c : Container)
  | sourceMetaObjectMutation (m : ObjectMeta)
  | destinationMetaObjectMutation (m : ObjectMeta)
  | username (u : String)
  | password (p : String)
  deriving DecidableEq, Repr

/-- `ApplyTo` of each option. None of them fails. -/
def TransferOption.applyTo : TransferOption → TransferOptions → TransferOptions × Option Error
  | .archiveFiles a, o =>
    ({ o with
        recursive := a, symLinks := a, permissions := a, modTimes := a, groups := a,
        owners := a, deviceFiles := a, specialFiles := a }, none)
  | .preserveOwnership p, o => ({ o with owners := p, groups := p }, none)
  | .standardProgress _, o =>
    ({ o with
        info := ["COPY2", "DEL2", "REMOVE2", "SKIP2", "FLIST2", "PROGRESS2", "STATS2"],
        humanReadable := true, logFile := "/dev/stdout" }, none)
  | .deleteDestination d, o => ({ o with delete := d }, none)
  | .hardLinks h, o => ({ o with hardLinks := h }, none)
  | .keepPartial p, o => ({ o with keepPartial := p }, none)
  | .sourcePodSpecMutation spec, o =>
    ({ o with podMutations :=
        o.podMutations.appendSource (newPodSpecMutation spec .replace) }, none)
  | .destinationPodSpecMutation spec, o =>
    ({ o with podMutations := o.podMutations.setDest (newPodSpecMutation spec .replace) }, none)
  | .sourceContainerMutation c, o =>
    ({ o with containerMutations :=
        o.containerMutations.appendSource (newContainerMutation c .replace) }, none)
  | .destinationContainerMutation c, o =>
    ({ o with containerMutations :=
        o.containerMutations.setDest (newContainerMutation c .replace) }, none)
  | .sourceMetaObjectMutation m, o => ({ o with sourcePodMeta := some ⟨m, .merge⟩ }, none)
  | .destinationMetaObjectMutation m, o =>
    ({ o with destinationPodMeta := some ⟨m, .merge⟩ }, none)
  | .username u, o => ({ o with username := u }, none)
  | .password p, o => ({ o with password := p }, none)

/-- The options applied in turn, with the errors they return. -/
def TransferOptions.applyAll (t : TransferOptions) :
    List TransferOption → TransferOptions × List (Option Error)
  | [] => (t, [])
  | opt :: opts =>
    let r := opt.applyTo t
    let rest := TransferOptions.applyAll r.1 opts
    (rest.1, r.2 :: rest.2)

def TransferOptions.apply (t : TransferOptions) (opts : List TransferOption) :
    TransferOptions × Option Error :=
  let r := t.applyAll opts
  (r.1, newAggregate r.2)

theorem TransferOption.applyTo_error (opt : TransferOption) (t : TransferOptions) :
    (opt.applyTo t).2 = none := by
  cases opt <;> rfl

@[simp] theorem TransferOptions.apply_error (t : TransferOptions) (opts : List TransferOption) :
    (t.apply opts).2 = none := by
  suffices h : ∀ t : TransferOptions, ∀ e ∈ (t.applyAll opts).2, e = none by
    simpa [TransferOptions.apply] using h t
  induction opts with
  | nil => simp [TransferOptions.applyAll]
  | cons opt opts ih =>
    intro t e he
    simp only [TransferOptions.applyAll, List.mem_cons] at he
    rcases he with rfl | he
    · exact opt.applyTo_error t
    · exact ih _ e he

/-! ### Where the mutation options go

An option touches one of the two slice pairs at most, as one `AppendedSlices.Op`; what a run
of operations leaves in the pair is worked out once, for both pairs. -/

namespace AppendedSlices

variable {α : Type}

/-- What an option does to a pair of slices. -/
inductive Op (α : Type)
  | appendSource (m : α)
  | setDest (m : α)
  deriving DecidableEq, Repr

def Op.appended : Op α → Option α
  | .appendSource m => some m
  | .setDest _ => none

def Op.set : Op α → Option α
  | .appendSource _ => none
  | .setDest m => some m

def step (p : AppendedSlices α) : Op α → AppendedSlices α
  | .appendSource m => p.appendSource m
  | .setDest m => p.setDest m

def run (p : AppendedSlices α) (ops : List (Op α)) : AppendedSlices α := ops.foldl step p

variable (p : AppendedSlices α) (m : α) (op : Op α) (ops : List (Op α))

@[simp] theorem appendSource_source : (p.appendSource m).source = p.source ++ [m] := by
  unfold appendSource; split <;> rfl

@[simp] theorem run_nil : p.run [] = p := rfl

@[simp] theorem run_cons : p.run (op :: ops) = (p.step op).run ops := rfl

theorem run_append (pre post : List (Op α)) : p.run (pre ++ post) = (p.run pre).run post :=
  List.foldl_append _ _ _ _

theorem run_source : (p.run ops).source = p.source ++ ops.filterMap Op.appended := by
  induction ops generalizing p with
  | nil => simp
  | cons op ops ih => cases op <;> simp [ih, step, setDest, Op.appended]

theorem run_cap (h : p.cap = capAfter p.source.length) :
    (p.run ops).cap = capAfter (p.run ops).source.length := by
  induction ops generalizing p with
  | nil => exact h
  | cons op ops ih =>
    refine ih _ ?_
    cases op with
    | setDest m => exact h
    | appendSource m =>
      simp only [step, appendSource]
      split <;> rename_i hc <;> rw [h] at hc <;> simp [capAfter, hc, h]

theorem run_dest_of_length_le (h : p.dest.length ≤ p.source.length)
    (hops : ops.filterMap Op.set = []) : (p.run ops).dest = p.dest := by
  induction ops generalizing p with
  | nil => rfl
  | cons op ops ih =>
    cases op with
    | setDest m => simp [Op.set] at hops
    | appendSource m =>
      have hset : p.dest.set p.source.length m = p.dest := List.set_eq_of_length_le h
      have hstep : (p.appendSource m).dest = p.dest := by
        unfold appendSource; split <;> simp [hset]
      rw [run_cons, step, ih _ (by simp only [hstep, appendSource_source, List.length_append]; omega)
        (by simpa [Op.set] using hops), hstep]

theorem run_dest_of_not_shared (h : p.shared = false) (hops : ops.filterMap Op.set = []) :
    (p.run ops).dest = p.dest := by
  induction ops generalizing p with
  | nil => rfl
  | cons op ops ih =>
    cases op with
    | setDest m => simp [Op.set] at hops
    | appendSource m =>
      have hstep : (p.appendSource m).dest = p.dest ∧ (p.appendSource m).shared = false := by
        unfold appendSource; split <;> simp [h]
      rw [run_cons, step, ih _ hstep.2 (by simpa [Op.set] using hops), hstep.1]

theorem empty_run_dest_of_no_set (hops : ops.filterMap Op.set = []) :
    (empty.run ops).dest = ([] : List α) :=
  run_dest_of_length_le _ _ (Nat.zero_le _) hops

/-- **The last set wins, and may be overwritten.** From nil slices, `dest` is what `source`
held at the last set, followed by the set's element; when `source`'s array had room then,
the first append after it writes over that element. -/
theorem empty_run_dest_of_last_set (pre post : List (Op α)) (x : α)
    (hpost : post.filterMap Op.set = []) :
    (empty.run (pre ++ .setDest x :: post)).dest =
      pre.filterMap Op.appended ++
        [if (pre.filterMap Op.appended).length < capAfter (pre.filterMap Op.appended).length
          then (post.filterMap Op.appended).headD x else x] := by
  have hsrc : (empty.run pre).source = pre.filterMap Op.appended := by simp [run_source, empty]
  have hcap := run_cap empty pre rfl
  rw [hsrc] at hcap
  rw [run_append, run_cons]
  cases post with
  | nil => simp [step, setDest, hsrc]
  | cons op post =>
    cases op with
    | setDest y => simp [Op.set] at hpost
    | appendSource y =>
      replace hpost : post.filterMap Op.set = [] := by simpa [Op.set] using hpost
      rw [run_cons]
      by_cases hroom : (pre.filterMap Op.appended).length < capAfter (pre.filterMap Op.appended).length
      · rw [run_dest_of_length_le _ _ (by simp [step, setDest, appendSource, hsrc, hcap, hroom]) hpost]
        simp [step, setDest, appendSource, hsrc, hcap, hroom, Op.appended]
      · rw [run_dest_of_not_shared _ _ (by simp [step, setDest, appendSource, hsrc, hcap, hroom]) hpost]
        simp [step, setDest, appendSource, hsrc, hcap, hroom]

section Projection

/-! Options of another type `β` reach the slices through `op`; `src` and `dst` read the
element an option appends or sets. -/

variable {β : Type} (op : β → Option (Op α)) (src dst : β → Option α)
  (hsrc : ∀ b, (op b).bind Op.appended = src b) (hdst : ∀ b, (op b).bind Op.set = dst b)

include hsrc in
theorem filterMap_appended (l : List β) :
    (l.filterMap op).filterMap Op.appended = l.filterMap src := by
  rw [List.filterMap_filterMap]; exact congrArg (List.filterMap · l) (funext hsrc)

include hdst in
theorem filterMap_set (l : List β) : (l.filterMap op).filterMap Op.set = l.filterMap dst := by
  rw [List.filterMap_filterMap]; exact congrArg (List.filterMap · l) (funext hdst)

include hsrc hdst in
/-- From nil slices, what the operations of `opts` leave: `source` holds what the options
append; `dest` is nil until an option sets it, and after the last set it is `source` as it
stood then and one more element. -/
theorem empty_run_filterMap (opts : List β) :
    (empty.run (opts.filterMap op)).source = opts.filterMap src ∧
    (opts.filterMap dst = [] → (empty.run (opts.filterMap op)).dest = []) ∧
    (∀ pre b x post, opts = pre ++ b :: post → op b = some (.setDest x) →
      post.filterMap dst = [] →
      (empty.run (opts.filterMap op)).dest =
        pre.filterMap src ++ [if (pre.filterMap src).length < capAfter (pre.filterMap src).length
          then (post.filterMap src).headD x else x]) := by
  refine ⟨by rw [run_source, filterMap_appended op src hsrc]; rfl,
    fun h => empty_run_dest_of_no_set _ (by rw [filterMap_set op dst hdst, h]), ?_⟩
  rintro pre b x post rfl hb hpost
  rw [List.filterMap_append, List.filterMap_cons, hb, ← filterMap_appended op src hsrc pre,
    ← filterMap_appended op src hsrc post]
  exact empty_run_dest_of_last_set _ _ _ (by rw [filterMap_set op dst hdst, hpost])

end Projection

end AppendedSlices

namespace TransferOption

def podOp : TransferOption → Option (AppendedSlices.Op PodSpecMutation)
  | .sourcePodSpecMutation spec => some (.appendSource (newPodSpecMutation spec .replace))
  | .destinationPodSpecMutation spec => some (.setDest (newPodSpecMutation spec .replace))
  | _ => none

def containerOp : TransferOption → Option (AppendedSlices.Op ContainerMutation)
  | .sourceContainerMutation c => some (.appendSource (newContainerMutation c .replace))
  | .destinationContainerMutation c => some (.setDest (newContainerMutation c .replace))
  | _ => none

def carriedSourcePodMutation : TransferOption → Option PodSpecMutation
  | .sourcePodSpecMutation spec => some (newPodSpecMutation spec .replace)
  | _ => none

def carriedDestinationPodMutation : TransferOption → Option PodSpecMutation
  | .destinationPodSpecMutation spec => some (newPodSpecMutation spec .replace)
  | _ => none

def carriedSourceContainerMutation : TransferOption → Option ContainerMutation
  | .sourceContainerMutation c => some (newContainerMutation c .replace)
  | _ => none

def carriedDestinationContainerMutation : TransferOption → Option ContainerMutation
  | .destinationContainerMutation c => some (newContainerMutation c .replace)
  | _ => none

end TransferOption

namespace TransferOptions

theorem applyAll_podMutations (t : TransferOptions) (opts : List TransferOption) :
    (t.applyAll opts).1.podMutations = t.podMutations.run (opts.filterMap TransferOption.podOp) := by
  induction opts generalizing t with
  | nil => rfl
  | cons opt opts ih =>
    simp only [applyAll, ih, List.filterMap_cons]
    cases opt <;> rfl

theorem applyAll_containerMutations (t : TransferOptions) (opts : List TransferOption) :
    (t.applyAll opts).1.containerMutations =
      t.containerMutations.run (opts.filterMap TransferOption.containerOp) := by
  induction opts generalizing t with
  | nil => rfl
  | cons opt opts ih =>
    simp only [applyAll, ih, List.filterMap_cons]
    cases opt <;> rfl

end TransferOptions

/-- **Where `Apply` puts the mutations.** From the empty options, each source list is the
in-order list of its options' mutations. A destination list is nil when no option of its
kind is given. Otherwise it is the *source* list as it stood at the last such option,
followed by one more mutation: that option's own or, when the source slice had room at that
point, the first source mutation given after it. -/
theorem apply_mutation_lists (opts : List TransferOption) :
    (TransferOptions.empty.apply opts).1.sourcePodMutations =
        opts.filterMap TransferOption.carriedSourcePodMutation ∧
    (TransferOptions.empty.apply opts).1.sourceContainerMutations =
        opts.filterMap TransferOption.carriedSourceContainerMutation ∧
    (opts.filterMap TransferOption.carriedDestinationPodMutation = [] →
      (TransferOptions.empty.apply opts).1.destinationPodMutations = []) ∧
    (∀ pre spec post, opts = pre ++ .destinationPodSpecMutation spec :: post →
      post.filterMap TransferOption.carriedDestinationPodMutation = [] →
      let s := pre.filterMap TransferOption.carriedSourcePodMutation
      (TransferOptions.empty.apply opts).1.destinationPodMutations =
        s ++ [if s.length < capAfter s.length then
          (post.filterMap TransferOption.carriedSourcePodMutation).headD
            (newPodSpecMutation spec .replace)
          else newPodSpecMutation spec .replace]) ∧
    (opts.filterMap TransferOption.carriedDestinationContainerMutation = [] →
      (TransferOptions.empty.apply opts).1.destContainerMutations = []) ∧
    (∀ pre c post, opts = pre ++ .destinationContainerMutation c :: post →
      post.filterMap TransferOption.carriedDestinationContainerMutation = [] →
      let s := pre.filterMap TransferOption.carriedSourceContainerMutation
      (TransferOptions.empty.apply opts).1.destContainerMutations =
        s ++ [if s.length < capAfter s.length then
          (post.filterMap TransferOption.carriedSourceContainerMutation).headD
            (newContainerMutation c .replace)
          else newContainerMutation c .replace]) := by
  obtain ⟨hps, hpn, hpl⟩ := AppendedSlices.empty_run_filterMap TransferOption.podOp
    TransferOption.carriedSourcePodMutation TransferOption.carriedDestinationPodMutation
    (fun b => by cases b <;> rfl) (fun b => by cases b <;> rfl) opts
  obtain ⟨hcs, hcn, hcl⟩ := AppendedSlices.empty_run_filterMap TransferOption.containerOp
    TransferOption.carriedSourceContainerMutation TransferOption.carriedDestinationContainerMutation
    (fun b => by cases b <;> rfl) (fun b => by cases b <;> rfl) opts
  simp only [TransferOptions.apply, TransferOptions.sourcePodMutations,
    TransferOptions.destinationPodMutations, TransferOptions.sourceContainerMutations,
    TransferOptions.destContainerMutations, TransferOptions.applyAll_podMutations,
    TransferOptions.applyAll_containerMutations]
  exact ⟨hps, hcs, hpn, fun pre _ post h => hpl pre _ _ post h rfl, hcn,
    fun pre _ post h => hcl pre _ _ post h rfl⟩

/-- A source pod option, then a destination one: the destination list gets both. -/
example :
    (TransferOptions.empty.apply [.sourcePodSpecMutation ⟨[], [], "", [], none, "a"⟩,
      .destinationPodSpecMutation ⟨[], [], "", [], none, "x"⟩]).1.destinationPodMutations =
    [⟨.replace, [], none, some "a"⟩, ⟨.replace, [], none, some "x"⟩] := by decide

/-- Three source pod options fill three of the source array's four cells; the destination
option writes the fourth, and the next source option writes over it. -/
example :
    (TransferOptions.empty.apply
      ([["a", "b", "c"].map fun n => .sourcePodSpecMutation ⟨[], [], "", [], none, n⟩,
        [.destinationPodSpecMutation ⟨[], [], "", [], none, "x"⟩,
         .sourcePodSpecMutation ⟨[], [], "", [], none, "y"⟩]].flatten)).1.destinationPodMutations =
    ["a", "b", "c", "y"].map fun n => ⟨.replace, [], none, some n⟩ := by decide

end VolSync
