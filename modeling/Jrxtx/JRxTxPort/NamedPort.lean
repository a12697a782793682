import Jrxtx.CommPortIdentifier.NamedLookup
import Jrxtx.JRxTxPort.Listing

/-!
# Opening a port by its name

`openSerialPort` sets the property `gnu.io.rxtx.SerialPorts` to the name, and the driver takes
the property for a list of names with the path separator between them.
-/

namespace Jrxtx.JRxTxPort

open Jrxtx.CommPortIdentifier Jrxtx.Registry Jrxtx.RXTXCommDriver Jrxtx.RXTXCommDriver.Host

/-! ## Tokens -/

section Tokens

variable {pathSep names token : List Char} {piece : String}

theorem tokens_of_absent (absent : ∀ c ∈ names, c ∉ pathSep) (some : token ++ names ≠ []) :
    tokens pathSep names token = [String.ofList (token ++ names)] := by
  induction names generalizing token with
  | nil =>
      cases token with
      | nil => simp at some
      | cons first rest => simp [tokens]
  | cons first rest ih =>
      rw [tokens, if_pos (absent first List.mem_cons_self)]
      rw [ih (fun c member => absent c (List.mem_cons_of_mem _ member)) (by simp)]
      simp

/-- A token is a piece of the names without separators. -/
theorem mem_tokens (clean : ∀ c ∈ token, c ∉ pathSep)
    (member : piece ∈ tokens pathSep names token) :
    piece.toList <:+: token ++ names ∧ ∀ c ∈ piece.toList, c ∉ pathSep := by
  induction names generalizing token with
  | nil =>
      cases token with
      | nil => simp [tokens] at member
      | cons first rest =>
          obtain rfl : piece = String.ofList (first :: rest) := by simpa [tokens] using member
          exact ⟨by simp, by simpa using clean⟩
  | cons first rest ih =>
      have later (isToken : piece ∈ tokens pathSep rest []) :
          piece.toList <:+: token ++ first :: rest ∧ ∀ c ∈ piece.toList, c ∉ pathSep := by
        obtain ⟨isInfix, isClean⟩ := ih (by simp) isToken
        exact ⟨isInfix.trans ⟨token ++ [first], [], by simp⟩, isClean⟩
      rw [tokens] at member
      split at member
      next notSep =>
        obtain ⟨isInfix, isClean⟩ := ih (by simpa [or_imp, forall_and] using ⟨clean, notSep⟩) member
        exact ⟨by simpa using isInfix, isClean⟩
      next =>
        split at member
        next => exact later member
        next =>
          rcases List.mem_cons.mp member with rfl | isToken
          · exact ⟨⟨[], first :: rest, by simp⟩, by simpa using clean⟩
          · exact later isToken

end Tokens

/-- An existing port: it can be read, and no proper piece of its name can. -/
structure Exists (host : Host) (inUse : String → Bool) (s : String) : Prop where
  nonempty : s ≠ ""
  reads : host.testRead inUse s portSerial = true
  pieces : ∀ piece : String, piece.toList <:+: s.toList → piece ≠ s →
    host.testRead inUse piece portSerial = false

/-- The name contains no path separator. -/
def Unseparated (host : Host) (s : String) : Prop :=
  ∀ c ∈ s.toList, c ∉ host.pathSep.toList

instance (host : Host) (s : String) : Decidable (Unseparated host s) :=
  inferInstanceAs (Decidable (∀ c ∈ _, c ∉ _))

/-- The driver registers the name as that of a parallel port. -/
def RegistersParallel (host : Host) (inUse : String → Bool) (s : String) : Prop :=
  ∃ names, host.registerPorts (some s) inUse portParallel = some names ∧ s ∈ names

section Registrations

variable {host : Host} {inUse : String → Bool} {s : String}

theorem addSpecifiedPorts_of_unseparated (isPort : Exists host inUse s)
    (unseparated : Unseparated host s) : host.addSpecifiedPorts inUse portSerial s = [s] := by
  have some : [] ++ s.toList ≠ [] := by simpa using isPort.nonempty
  rw [addSpecifiedPorts, tokens_of_absent unseparated some]
  simp [isPort.reads]

theorem addSpecifiedPorts_of_separated (isPort : Exists host inUse s)
    (separated : ¬Unseparated host s) : host.addSpecifiedPorts inUse portSerial s = [] := by
  rw [addSpecifiedPorts, List.filter_eq_nil_iff]
  intro piece isToken
  obtain ⟨isInfix, clean⟩ := mem_tokens (by simp) isToken
  rw [isPort.pieces piece (by simpa using isInfix)]
  · simp
  · rintro rfl
    exact separated clean

theorem registerPorts_serial (noFiles : host.propertiesFiles = [])
    (allowed : host.deniesProperties = false) :
    host.registerPorts (some s) inUse portSerial =
      some (host.addSpecifiedPorts inUse portSerial s) := by
  simp [registerPorts, allowed, specifiedPorts, properties, noFiles]

/-- What the driver registers besides the serial port. -/
theorem detect_of_parallel {names : List String} (noFiles : host.propertiesFiles = [])
    (allowed : host.deniesProperties = false) (driver : DriverRef)
    (parallel : host.registerPorts (some s) inUse portParallel = some names) :
    host.detect (some s) inUse driver =
      { driver
        registrations := (host.addSpecifiedPorts inUse portSerial s).map (·, portSerial) ++
          names.map (·, portParallel)
        throws := false } := by
  simp [detect, initializePorts, registerPorts_serial noFiles allowed, parallel]

theorem detect_of_throws (noFiles : host.propertiesFiles = [])
    (allowed : host.deniesProperties = false) (driver : DriverRef)
    (throws : host.registerPorts (some s) inUse portParallel = none) :
    host.detect (some s) inUse driver =
      { driver
        registrations := (host.addSpecifiedPorts inUse portSerial s).map (·, portSerial)
        throws := true } := by
  simp [detect, initializePorts, registerPorts_serial noFiles allowed, throws]

theorem detect_of_denied (denied : host.deniesProperties = true) (driver : DriverRef) :
    (host.detect (some s) inUse driver).registrations = [] := by
  simp [detect, initializePorts, registerPorts, denied]

/-- A name with a separator is not registered, unless as that of a parallel port. -/
theorem not_registered (noFiles : host.propertiesFiles = []) (isPort : Exists host inUse s)
    (failed : ¬(host.deniesProperties = false ∧
      (Unseparated host s ∨ RegistersParallel host inUse s)))
    (driver : DriverRef) :
    ∀ registration ∈ (host.detect (some s) inUse driver).registrations, registration.1 ≠ s := by
  intro registration member
  cases denied : host.deniesProperties with
  | true => simp [detect_of_denied denied] at member
  | false =>
      rw [denied, and_iff_right rfl, not_or] at failed
      have serial := addSpecifiedPorts_of_separated isPort failed.1
      cases parallel : host.registerPorts (some s) inUse portParallel with
      | none =>
          rw [detect_of_throws noFiles denied driver parallel, serial] at member
          simp at member
      | some names =>
          rw [detect_of_parallel noFiles denied driver parallel, serial] at member
          obtain ⟨name, isName, rfl⟩ := List.mem_map.mp member
          rintro rfl
          exact failed.2 ⟨names, parallel, isName⟩

end Registrations

/-- A port that is not listed yet is found by its name exactly if the list is finite, the driver
may set properties, and the name contains no path separator or is registered as that of a
parallel port. -/
theorem named_port_found_iff {self : Registry} {host : Host} {inUse : String → Bool} {s : String}
    (created : self.Created) (lacks : self.Lacks s) (noFiles : host.propertiesFiles = [])
    (isPort : Exists host inUse s)
    (distinct : ∀ names, host.registerPorts (some s) inUse portParallel = some names →
      s ∈ names → names.Nodup)
    (driver : DriverRef) :
    (∃ after ref, self.getPortIdentifier s (host.detect (some s) inUse driver) =
        some (after, some ref) ∧ (after.heap ref).portName = s) ↔
      (∃ nodes, self.Lists nodes) ∧ host.deniesProperties = false ∧
        (Unseparated host s ∨ RegistersParallel host inUse s) := by
  constructor
  · rintro ⟨after, ref, looked, -⟩
    have missed : self.findName s = some none := by
      cases found : self.findName s with
      | none => simp [getPortIdentifier, found] at looked
      | some found' =>
          cases found' with
          | none => rfl
          | some ref => exact absurd found (lacks ref)
    obtain ⟨nodes, lists⟩ := created.exists_lists missed
    refine ⟨⟨nodes, lists⟩, ?_⟩
    by_contra failed
    exact not_found_of_not_registered lacks lists (not_registered noFiles isPort failed driver) ref
      looked
  · rintro ⟨⟨nodes, lists⟩, allowed, found⟩
    by_cases unseparated : Unseparated host s
    · have serial := addSpecifiedPorts_of_unseparated isPort unseparated
      cases parallel : host.registerPorts (some s) inUse portParallel with
      | none =>
          apply getPortIdentifier_of_first lacks lists
          rw [detect_of_throws noFiles allowed driver parallel, serial]
          rfl
      | some names =>
          apply getPortIdentifier_of_first lacks lists
          rw [detect_of_parallel noFiles allowed driver parallel, serial]
          rfl
    · obtain ⟨names, registered, member⟩ := found.resolve_left unseparated
      have detected := detect_of_parallel noFiles allowed driver registered
      rw [addSpecifiedPorts_of_separated isPort unseparated] at detected
      have isNodup := (distinct names registered member).map (Prod.mk_left_injective portParallel)
      rw [detected]
      exact getPortIdentifier_of_distinct lacks lists isNodup rfl (List.mem_map_of_mem member)

/-- A host with one readable port. -/
def onePort (s : String) : Host :=
  { Process.twoPorts with
    testRead := fun inUse name portType => name = s && portType = portSerial && !inUse name }

theorem onePort_exists {s : String} (nonempty : s ≠ "") :
    Exists (onePort s) (fun _ => false) s where
  nonempty := nonempty
  reads := by simp [onePort]
  pieces := fun piece _ proper => by simp [onePort, proper]

theorem onePort_unseparated {s : String} (absent : ':' ∉ s.toList) : Unseparated (onePort s) s := by
  have pathSep : (onePort s).pathSep = ":" := rfl
  intro c member isSeparator
  obtain rfl : c = ':' := by simpa [pathSep] using isSeparator
  exact absent member

theorem initial_lacks (s : String) : Registry.initial.Lacks s := by
  intro ref found
  have missed : Registry.initial.findName s = some none := rfl
  simp [missed] at found

theorem named_port_found_ttyS0 :
    ∃ after ref,
      Registry.initial.getPortIdentifier "/dev/ttyS0"
          ((onePort "/dev/ttyS0").detect (some "/dev/ttyS0") (fun _ => false) 1) =
        some (after, some ref) ∧ (after.heap ref).portName = "/dev/ttyS0" := by
  have parallel : (onePort "/dev/ttyS0").registerPorts (some "/dev/ttyS0") (fun _ => false)
      portParallel = some [] := by decide +kernel
  refine (named_port_found_iff (created_of_reachable (.start rfl)) (initial_lacks _) rfl
    (onePort_exists (by decide)) ?_ 1).mpr ⟨⟨[], initial_lists⟩, rfl,
      .inl (onePort_unseparated (by decide))⟩
  intro names registered member
  simp [Option.some.inj (registered.symm.trans parallel)] at member

/-- The name of a device by its path is split at its colons. -/
theorem separated_port_not_found :
    Exists (onePort "/dev/serial/by-path/pci-0000:00:14.0") (fun _ => false)
        "/dev/serial/by-path/pci-0000:00:14.0" ∧
      ∃ after, Registry.initial.getPortIdentifier "/dev/serial/by-path/pci-0000:00:14.0"
          ((onePort "/dev/serial/by-path/pci-0000:00:14.0").detect
            (some "/dev/serial/by-path/pci-0000:00:14.0") (fun _ => false) 1) =
        some (after, none) :=
  ⟨onePort_exists (by decide), _, rfl⟩

end Jrxtx.JRxTxPort
