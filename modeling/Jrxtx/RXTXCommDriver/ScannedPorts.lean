import Mathlib.Data.List.Nodup
import Jrxtx.RXTXCommDriver.Initialize

/-!
# The ports found by scanning

`registerValidPorts` tries every file of the device directory under every valid prefix, and
many prefixes extend one another.  The outcomes of the tests are given one by one, in the
order in which the driver makes them.
-/

namespace Jrxtx.RXTXCommDriver

/-! ## Prefixes -/

section Prefixes

/-- The words for which the tests, in order, succeed. -/
def passing (outcomes : Nat → Bool) (words : List String) : List String :=
  (words.zipIdx.filter fun (_, test) => outcomes test).map Prod.fst

/-- `getValidPortPrefixes`, with the outcomes of `isPortPrefixValid`; `none` is the exception
if they do not fit into the array. -/
def getValidPortPrefixes (isPortPrefixValid : Nat → Bool) (candidatePortPrefixes : List String) :
    Option (List String) :=
  let valid := passing isPortPrefixValid candidatePortPrefixes
  if valid.length ≤ 256 then some valid else none

variable {outcomes : Nat → Bool} {words : List String}

theorem passing_sublist (outcomes : Nat → Bool) (words : List String) :
    (passing outcomes words).Sublist words := by
  have sublist := (List.filter_sublist (p := fun (entry : String × Nat) => outcomes entry.2)
    (l := words.zipIdx)).map Prod.fst
  rwa [List.zipIdx_map_fst] at sublist

/-- Tests whose outcomes depend on the word alone. -/
theorem passing_eq_filter (test : String → Bool)
    (outcome : ∀ i (within : i < words.length), outcomes i = test words[i]) :
    passing outcomes words = words.filter test := by
  have same : words.zipIdx.filter (fun (_, i) => outcomes i) =
      words.zipIdx.filter fun (word, _) => test word := by
    apply List.filter_congr
    rintro ⟨word, i⟩ member
    obtain ⟨-, within, isWord⟩ := List.mem_zipIdx member
    simp only [isWord, Nat.sub_zero]
    exact outcome i (by simpa using within)
  rw [passing, same]
  calc (words.zipIdx.filter fun (word, _) => test word).map Prod.fst
      = (words.zipIdx.map Prod.fst).filter test := by rw [List.filter_map]; rfl
    _ = words.filter test := by rw [List.zipIdx_map_fst]

@[simp] theorem passing_true (words : List String) : passing (fun _ => true) words = words := by
  simp [passing, List.zipIdx_map_fst]

end Prefixes

/-! ## Prefixes that extend one another -/

/-- Where one prefix extends another, the extension starts with an upper-case letter. -/
def Separated (prefixes : List String) : Prop :=
  ∀ short ∈ prefixes, ∀ long ∈ prefixes, short.toList <+: long.toList → short ≠ long →
    ((long.toList.drop short.length).head?.any Char.isUpper) = true

instance (prefixes : List String) : Decidable (Separated prefixes) :=
  inferInstanceAs (Decidable (∀ short ∈ prefixes, ∀ long ∈ prefixes, _ → _ → _))

namespace Host

variable (host : Host)

/-- The prefixes that `registerScannedPorts` assumes for a type of ports. -/
def candidatePortPrefixes (portType : Int) : List String :=
  if portType = portSerial then host.serialPortPrefixes
  else if portType = portParallel then host.parallelPortPrefixes
  else []

/-- The name of the port behind a device file. -/
def portName (device : String) : String :=
  if host.isWindows then device else host.deviceDirectory ++ device

/-- The names that `registerValidPorts` tests, in order. -/
def testedPorts (candidates prefixes : List String) : List String :=
  candidates.flatMap fun device => prefixes.flatMap (host.portNames device)

/-- What every locale does to a name that starts with an upper-case letter of ASCII. -/
structure CaseMapping : Prop where
  upper : ∀ letter rest, letter.isUpper = true →
    (host.toUpperCase (String.ofList (letter :: rest))).toList.head? = some letter
  lower : ∀ letter rest, letter.isUpper = true →
    (host.toLowerCase (String.ofList (letter :: rest))).toList.head? ≠ some letter

/-- The device is the prefix and a suffix without letters. -/
def Accepts (device portPrefix : String) : Prop :=
  ∃ suffix, device = portPrefix ++ suffix ∧ host.toUpperCase suffix = host.toLowerCase suffix

variable {host}

theorem candidatePortPrefixes_of_linux (linux : host.osName = "Linux") (portType : Int) :
    (host.candidatePortPrefixes portType).Nodup ∧
      Separated (host.candidatePortPrefixes portType) ∧
      (host.candidatePortPrefixes portType).length ≤ 256 := by
  unfold candidatePortPrefixes serialPortPrefixes parallelPortPrefixes
  rw [if_pos linux, if_pos linux]
  split
  · decide +kernel
  · split <;> decide +kernel

theorem portNames_eq (linux : host.osName = "Linux") (device portPrefix : String) :
    host.portNames device portPrefix = [] ∨
      host.portNames device portPrefix = [host.portName device] ∧
        host.Accepts device portPrefix := by
  have others : host.isSolaris = false := by simp [isSolaris, linux]
  simp only [portNames, others, Bool.false_eq_true, if_false]
  split
  next => exact .inl rfl
  next accepted =>
    simp only [Bool.or_eq_true, Bool.not_eq_true', decide_eq_true_eq, not_or, ne_eq,
      Bool.not_eq_false, not_not, List.isPrefixOf_iff_prefix] at accepted
    obtain ⟨⟨suffix, whole⟩, letterless⟩ := accepted
    refine .inr ⟨rfl, String.ofList suffix, ?_, ?_⟩
    · exact String.toList_injective (by simp [whole])
    · have dropped : device.toList.drop portPrefix.length = suffix := by
        simp [← whole, ← String.length_toList]
      simpa [dropped] using letterless

/-- No device has two of the prefixes. -/
theorem Accepts.unique (caseMapping : host.CaseMapping) {prefixes : List String}
    (separated : Separated prefixes) {device one other : String} (first : host.Accepts device one)
    (second : host.Accepts device other) (isPrefix : one ∈ prefixes)
    (isOther : other ∈ prefixes) : one = other := by
  wlog shorter : one.toList <+: other.toList generalizing one other
  · have swapped := this second first isOther isPrefix
    obtain ⟨suffix, whole, -⟩ := first
    obtain ⟨suffix', whole', -⟩ := second
    have isOne : one.toList <+: device.toList := ⟨suffix.toList, by simp [whole]⟩
    have isOther : other.toList <+: device.toList := ⟨suffix'.toList, by simp [whole']⟩
    exact (swapped ((List.prefix_or_prefix_of_prefix isOne isOther).resolve_left shorter)).symm
  by_contra distinct
  obtain ⟨suffix, whole, letterless⟩ := first
  obtain ⟨suffix', whole', -⟩ := second
  have extended := separated one isPrefix other isOther shorter distinct
  obtain ⟨extension, isExtension⟩ := shorter
  have dropped : other.toList.drop one.length = extension := by
    simp [← isExtension, ← String.length_toList]
  rw [dropped] at extended
  cases extension with
  | nil => simp at extended
  | cons letter rest =>
      have isUpper : letter.isUpper = true := by simpa using extended
      have isSuffix : suffix = String.ofList (letter :: (rest ++ suffix'.toList)) := by
        apply String.toList_injective
        have both : one.toList ++ suffix.toList = other.toList ++ suffix'.toList := by
          simpa using congrArg String.toList (whole.symm.trans whole')
        simpa [← isExtension] using both
      apply caseMapping.lower letter (rest ++ suffix'.toList) isUpper
      rw [← isSuffix, ← letterless, isSuffix]
      exact caseMapping.upper _ _ isUpper

/-- Under all prefixes together a device is tested at most once. -/
theorem flatMap_portNames_sublist (linux : host.osName = "Linux") (caseMapping : host.CaseMapping)
    {prefixes : List String} (nodup : prefixes.Nodup) (separated : Separated prefixes)
    (device : String) :
    (prefixes.flatMap (host.portNames device)).Sublist [host.portName device] := by
  have unique : ∀ one ∈ prefixes, ∀ other ∈ prefixes, host.Accepts device one →
      host.Accepts device other → one = other :=
    fun one isPrefix other isOther first second =>
      first.unique caseMapping separated second isPrefix isOther
  clear separated
  induction prefixes with
  | nil => simp
  | cons portPrefix prefixes ih =>
      obtain ⟨fresh, nodup⟩ := List.nodup_cons.mp nodup
      rw [List.flatMap_cons]
      rcases portNames_eq linux device portPrefix with none | ⟨accepted, accepts⟩
      · rw [none, List.nil_append]
        exact ih nodup fun one isPrefix other isOther =>
          unique one (List.mem_cons_of_mem _ isPrefix) other (List.mem_cons_of_mem _ isOther)
      · have others : prefixes.flatMap (host.portNames device) = [] := by
          rw [List.flatMap_eq_nil_iff]
          intro other isOther
          refine (portNames_eq linux device other).resolve_right ?_
          rintro ⟨-, accepts'⟩
          have same := unique portPrefix List.mem_cons_self other
            (List.mem_cons_of_mem _ isOther) accepts accepts'
          exact fresh (same ▸ isOther)
        rw [accepted, others, List.append_nil]

theorem testedPorts_sublist (linux : host.osName = "Linux") (caseMapping : host.CaseMapping)
    {prefixes : List String} (nodup : prefixes.Nodup) (separated : Separated prefixes)
    (candidates : List String) :
    (host.testedPorts candidates prefixes).Sublist (candidates.map host.portName) := by
  induction candidates with
  | nil => exact .slnil
  | cons device candidates ih =>
      exact (flatMap_portNames_sublist linux caseMapping nodup separated device).append ih

theorem portName_injective (host : Host) : Function.Injective host.portName := by
  intro one other same
  unfold portName at same
  split at same
  · exact same
  · simpa using same

theorem exists_of_mem_testedPorts (linux : host.osName = "Linux")
    {candidates prefixes : List String} {name : String}
    (tested : name ∈ host.testedPorts candidates prefixes) :
    ∃ device ∈ candidates, name = host.portName device ∧
      ∃ portPrefix ∈ prefixes, host.Accepts device portPrefix := by
  obtain ⟨device, isCandidate, tested⟩ := List.mem_flatMap.mp tested
  obtain ⟨portPrefix, isPrefix, tested⟩ := List.mem_flatMap.mp tested
  rcases portNames_eq linux device portPrefix with none | ⟨accepted, accepts⟩
  · simp [none] at tested
  · exact ⟨device, isCandidate, by simpa [accepted] using tested, portPrefix, isPrefix, accepts⟩

/-- `registerValidPorts` with tests that depend on the name alone. -/
theorem registerValidPorts_eq_passing {reads : Nat → Bool} {inUse : String → Bool} {portType : Int}
    {candidates prefixes : List String}
    (outcome : ∀ i (within : i < (host.testedPorts candidates prefixes).length),
      reads i = host.testRead inUse (host.testedPorts candidates prefixes)[i] portType) :
    host.registerValidPorts inUse portType candidates prefixes =
      passing reads (host.testedPorts candidates prefixes) :=
  (passing_eq_filter (host.testRead inUse · portType) outcome).symm

/-- `registerScannedPorts` takes every prefix that it assumes for valid. -/
theorem registerScannedPorts_eq_passing {reads : Nat → Bool} {inUse : String → Bool}
    {portType : Int} {candidates prefixes : List String}
    (listed : host.candidateDeviceNames = some candidates)
    (valid : getValidPortPrefixes (fun _ => true) (host.candidatePortPrefixes portType) =
      some prefixes)
    (outcome : ∀ i (within : i < (host.testedPorts candidates prefixes).length),
      reads i = host.testRead inUse (host.testedPorts candidates prefixes)[i] portType) :
    host.registerScannedPorts inUse portType =
      some (passing reads (host.testedPorts candidates prefixes)) := by
  have isBuiltIn : host.candidatePortPrefixes portType = prefixes := by
    simp only [getValidPortPrefixes, passing_true] at valid
    split at valid
    · exact Option.some.inj valid
    · simp at valid
  rw [registerScannedPorts, listed, Option.map_some, ← registerValidPorts_eq_passing outcome,
    ← isBuiltIn]
  rfl

/-- On Linux no device is registered twice, and only under one of the prefixes. -/
theorem registerValidPorts_distinct (linux : host.osName = "Linux") (caseMapping : host.CaseMapping)
    {candidates : List String} (distinct : candidates.Nodup) (portType : Int)
    (isPortPrefixValid reads : Nat → Bool) :
    ∃ prefixes,
      getValidPortPrefixes isPortPrefixValid (host.candidatePortPrefixes portType) =
          some prefixes ∧
        (passing reads (host.testedPorts candidates prefixes)).Nodup ∧
        ∀ name ∈ passing reads (host.testedPorts candidates prefixes),
          ∃ device ∈ candidates, name = host.portName device ∧
            ∃ portPrefix ∈ prefixes, host.Accepts device portPrefix := by
  obtain ⟨nodup, separated, fits⟩ := candidatePortPrefixes_of_linux linux portType
  have sublist := passing_sublist isPortPrefixValid (host.candidatePortPrefixes portType)
  refine ⟨_, if_pos (sublist.length_le.trans fits), ?_, ?_⟩
  · have tested := testedPorts_sublist linux caseMapping (nodup.sublist sublist)
      (fun short isShort long isLong =>
        separated short (sublist.subset isShort) long (sublist.subset isLong)) candidates
    exact (distinct.map host.portName_injective).sublist ((passing_sublist _ _).trans tested)
  · intro name registered
    exact exists_of_mem_testedPorts linux ((passing_sublist _ _).subset registered)

/-- A Linux host whose locale maps the letters of ASCII only. -/
def linuxHost : Host where
  osName := "Linux"
  pathSep := ":"
  toUpperCase := fun text => String.ofList (text.toList.map Char.toUpper)
  toLowerCase := fun text => String.ofList (text.toList.map Char.toLower)
  deviceDirectory := "/dev/"
  propertiesFiles := []
  property := fun _ => none
  deniesProperties := false
  knownPorts := fun _ => []
  devices := some ["ttyS0", "ttySA0"]
  terms := none
  testRead := fun _ _ _ => true

theorem bounds_of_isUpper {letter : Char} (isUpper : letter.isUpper = true) :
    'A'.val ≤ letter.val ∧ letter.val ≤ 'Z'.val :=
  of_decide_eq_true isUpper

theorem linuxHost_caseMapping : linuxHost.CaseMapping where
  upper := by
    intro letter rest isUpper
    have notLower : ¬('a'.val ≤ letter.val ∧ letter.val ≤ 'z'.val) := by
      rintro ⟨isLower, -⟩
      have ordered : 'a'.val ≤ 'Z'.val := UInt32.le_trans isLower (bounds_of_isUpper isUpper).2
      exact absurd ordered (by decide)
    have fixed : letter.toUpper = letter := dif_neg notLower
    simp [linuxHost, fixed]
  lower := by
    intro letter rest isUpper same
    have moved : letter.toLower.val = letter.val + 32 :=
      congrArg Char.val (dif_pos (bounds_of_isUpper isUpper))
    have fixed : letter.toLower = letter := by simpa [linuxHost] using same
    simp [fixed] at moved

/-- `ttySA0` starts with `ttyS` too. -/
theorem registerValidPorts_distinct_ttySA :
    ∃ prefixes,
      getValidPortPrefixes (fun _ => true) (linuxHost.candidatePortPrefixes portSerial) =
          some prefixes ∧
        (passing (fun _ => true) (linuxHost.testedPorts ["ttyS0", "ttySA0"] prefixes)).Nodup ∧
        ∀ name ∈ passing (fun _ => true) (linuxHost.testedPorts ["ttyS0", "ttySA0"] prefixes),
          ∃ device ∈ ["ttyS0", "ttySA0"], name = linuxHost.portName device ∧
            ∃ portPrefix ∈ prefixes, linuxHost.Accepts device portPrefix :=
  registerValidPorts_distinct rfl linuxHost_caseMapping (by decide) portSerial _ _

example : linuxHost.testedPorts ["ttyS0", "ttySA0"] linuxHost.serialPortPrefixes =
    ["/dev/ttyS0", "/dev/ttySA0"] := by
  decide +kernel

end Host

end Jrxtx.RXTXCommDriver
