import BthEmul.Foundation.Search
import BthEmul.Usb.Device
import Mathlib.Algebra.Group.Nat.Defs
import Mathlib.Data.List.Dedup
import Mathlib.Data.List.Perm.Lattice

/-!
# Selecting the interfaces of a configuration

`SelectInterfaces` builds a list of the interfaces of a configuration. It asks
for interface 0, 1, 2 and so on, and stops when it has found as many as the
configuration says that it has. A device whose descriptor has fewer keeps it
asking.

The function of the USB bus driver that looks for an interface is a parameter.
-/

namespace BthEmul

open Foundation

namespace Usb

/-- `USB_INTERFACE_DESCRIPTOR`, as far as it is looked for. -/
structure InterfaceDescriptor where
  /-- `bInterfaceNumber`. -/
  bInterfaceNumber : UInt8
  /-- `bAlternateSetting`. -/
  bAlternateSetting : UInt8
  deriving DecidableEq

/-- A configuration descriptor with the interface descriptors in it. -/
structure ConfigurationDescriptor where
  /-- `bNumInterfaces`. -/
  bNumInterfaces : UInt8
  /-- The interface descriptors. -/
  interfaces : List InterfaceDescriptor
  deriving DecidableEq

/-- The value of a descriptor's field as it is compared with a `LONG`. -/
def longOfByte (byte : UInt8) : Int32 := Int32.ofNat byte.toNat

/-- The descriptor has an interface number and an alternate setting. -/
def InterfaceDescriptor.Matches
    (descriptor : InterfaceDescriptor)
    (interfaceNumber alternateSetting : Int32) : Prop :=
  longOfByte descriptor.bInterfaceNumber = interfaceNumber ∧
    longOfByte descriptor.bAlternateSetting = alternateSetting

instance (descriptor : InterfaceDescriptor)
    (interfaceNumber alternateSetting : Int32) :
    Decidable (descriptor.Matches interfaceNumber alternateSetting) :=
  inferInstanceAs (Decidable (_ ∧ _))

/-- `USBD_ParseConfigurationDescriptorEx` from the start of the configuration,
with -1 for the class, the subclass and the protocol. A number of -1 asks for
any interface, and nothing is said of it here. -/
structure UsbdParser where
  /-- What is returned; nothing is a null pointer. -/
  parseConfigurationDescriptorEx :
    ConfigurationDescriptor → Int32 → Int32 → Option InterfaceDescriptor
  /-- What is found is one of the descriptors and matches. -/
  matches_of_found : ∀ configuration interfaceNumber alternateSetting found,
    interfaceNumber ≠ -1 → alternateSetting ≠ -1 →
      parseConfigurationDescriptorEx configuration interfaceNumber
          alternateSetting = some found →
        found ∈ configuration.interfaces ∧
          found.Matches interfaceNumber alternateSetting
  /-- A descriptor that matches is not missed. -/
  found_of_matches : ∀ configuration interfaceNumber alternateSetting present,
    interfaceNumber ≠ -1 → alternateSetting ≠ -1 →
      present ∈ configuration.interfaces →
        present.Matches interfaceNumber alternateSetting →
          (parseConfigurationDescriptorEx configuration interfaceNumber
            alternateSetting).isSome

/-! ## The loop -/

/-- The variables of the loop of `SelectInterfaces`. -/
structure SelectionLoop where
  /-- `interfaceNumber`, which counts the interfaces found. -/
  interfaceNumber : Int32
  /-- `interfaceindex`. -/
  interfaceindex : Int32
  /-- The entries from `tmp` up to `interfaceList`. -/
  interfaceList : List InterfaceDescriptor
  deriving DecidableEq

namespace SelectionLoop

/-- Before the first iteration. -/
def start : SelectionLoop where
  interfaceNumber := 0
  interfaceindex := 0
  interfaceList := []

/-- The condition of the loop. -/
def Running
    (loop : SelectionLoop)
    (configuration : ConfigurationDescriptor) : Prop :=
  loop.interfaceNumber < longOfByte configuration.bNumInterfaces

instance (loop : SelectionLoop) (configuration : ConfigurationDescriptor) :
    Decidable (loop.Running configuration) :=
  inferInstanceAs (Decidable (_ < _))

/-- The body of the loop. -/
def body
    (loop : SelectionLoop)
    (parser : UsbdParser)
    (configuration : ConfigurationDescriptor) : SelectionLoop :=
  match parser.parseConfigurationDescriptorEx configuration
      loop.interfaceindex 0 with
  | some interfaceDescriptor =>
      { interfaceNumber := loop.interfaceNumber + 1
        interfaceindex := loop.interfaceindex + 1
        interfaceList := loop.interfaceList ++ [interfaceDescriptor] }
  | none => { loop with interfaceindex := loop.interfaceindex + 1 }

/-- The loop after some evaluations of its condition. -/
def after
    (parser : UsbdParser)
    (configuration : ConfigurationDescriptor) : Nat → SelectionLoop
  | 0 => start
  | count + 1 =>
      let loop := after parser configuration count
      if loop.Running configuration then loop.body parser configuration
      else loop

end SelectionLoop

/-- How far `SelectInterfaces` has come. -/
inductive Selection
  | returned (status : NtStatus)
  | searching (loop : SelectionLoop)
  /-- The list for `USBD_CreateConfigurationRequestEx`; an entry without a
  descriptor terminates it. -/
  | listed (interfaceList : List (Option InterfaceDescriptor))
  deriving DecidableEq

/-- `SelectInterfaces` after some iterations of its loop, up to the list of
interfaces. The flag says whether the list can be allocated. -/
def selectInterfaces
    (parser : UsbdParser)
    (allocates : Bool)
    (configuration : ConfigurationDescriptor)
    (iterations : Nat) : Selection :=
  if ¬ allocates then .returned statusInsufficientResources
  else
    let loop := SelectionLoop.after parser configuration iterations
    if loop.Running configuration then .searching loop
    else .listed (loop.interfaceList.map some ++ [none])

/-! ## The property -/

/-- The interface numbers that a byte can hold. -/
def interfaceNumbers : Nat := 256

/-- The search ends after at most as many probes as there are interface
numbers, and the list has no more entries than announced, a terminator, and no
interface twice. -/
structure SelectionEnds
    (parser : UsbdParser)
    (allocates : Bool)
    (configuration : ConfigurationDescriptor) : Prop where
  /-- The search ends. -/
  ends : ∃ iterations ≤ interfaceNumbers, ∀ loop,
    selectInterfaces parser allocates configuration iterations ≠
      .searching loop
  /-- The list is short and names every interface once. -/
  listed : ∀ iterations interfaceList,
    selectInterfaces parser allocates configuration iterations =
        .listed interfaceList →
      ∃ entries : List InterfaceDescriptor,
        interfaceList = entries.map some ++ [none] ∧
          entries.length ≤ configuration.bNumInterfaces.toNat ∧
          (entries.map InterfaceDescriptor.bInterfaceNumber).Nodup

/-- The interface numbers with alternate setting 0 that are present. -/
def ConfigurationDescriptor.present
    (configuration : ConfigurationDescriptor) : List UInt8 :=
  ((configuration.interfaces.filter
      fun descriptor => descriptor.bAlternateSetting = 0).map
    InterfaceDescriptor.bInterfaceNumber).dedup

/-! ## The loop as a search -/

/-- Small numbers are compared as `LONG` values like themselves. -/
theorem int32_ofNat_lt_iff
    (smallLeft : left < 2 ^ 31)
    (smallRight : right < 2 ^ 31) :
    Int32.ofNat left < Int32.ofNat right ↔ left < right := by
  rw [Int32.lt_iff_toInt_lt, Int32.toInt_ofNat_of_lt smallLeft,
    Int32.toInt_ofNat_of_lt smallRight]
  exact Int.ofNat_lt

/-- Small numbers that are the same `LONG` value are the same. -/
theorem int32_ofNat_inj
    (smallLeft : left < 2 ^ 31)
    (smallRight : right < 2 ^ 31)
    (same : Int32.ofNat left = Int32.ofNat right) :
    left = right := by
  have values := congrArg Int32.toInt same
  rw [Int32.toInt_ofNat_of_lt smallLeft,
    Int32.toInt_ofNat_of_lt smallRight] at values
  exact Int.ofNat_inj.mp values

/-- The value of a byte is small. -/
theorem toNat_lt (byte : UInt8) : byte.toNat < 2 ^ 31 :=
  Nat.lt_trans byte.toNat_lt (by decide)

/-- What the loop asks for in its iterations. -/
def UsbdParser.probe
    (parser : UsbdParser)
    (configuration : ConfigurationDescriptor)
    (index : Nat) : Option InterfaceDescriptor :=
  parser.parseConfigurationDescriptorEx configuration (Int32.ofNat index) 0

/-- The search that the loop makes. -/
def UsbdParser.search
    (parser : UsbdParser)
    (configuration : ConfigurationDescriptor) :
    Nat → Search InterfaceDescriptor :=
  Search.after (parser.probe configuration)
    configuration.bNumInterfaces.toNat

/-- The variables of the loop are those of its search. -/
theorem SelectionLoop.after_eq
    (parser : UsbdParser)
    (configuration : ConfigurationDescriptor)
    (count : Nat) :
    after parser configuration count =
      { interfaceNumber :=
          Int32.ofNat (parser.search configuration count).found.length
        interfaceindex :=
          Int32.ofNat (parser.search configuration count).index
        interfaceList := (parser.search configuration count).found } := by
  induction count with
  | zero => rfl
  | succ count inductionHypothesis =>
      have bounded := Search.length_found_le (parser.probe configuration)
        configuration.bNumInterfaces.toNat count
      have announced := toNat_lt configuration.bNumInterfaces
      rw [UsbdParser.search, Search.after, Search.step]
      change _ = _ at inductionHypothesis
      rw [UsbdParser.search] at inductionHypothesis
      rw [after, inductionHypothesis]
      have running := int32_ofNat_lt_iff
        (Nat.lt_of_le_of_lt bounded announced) announced
      simp only [Running, longOfByte, running]
      split
      · rw [body]
        change (match parser.probe configuration _ with
          | some interfaceDescriptor => _
          | none => _) = _
        cases parser.probe configuration
            (Search.after (parser.probe configuration)
              configuration.bNumInterfaces.toNat count).index with
        | none => simp [Int32.ofNat_add]
        | some interfaceDescriptor => simp [Int32.ofNat_add]
      · rfl

/-- The search goes on exactly while fewer interfaces were found than
announced. -/
theorem running_after_iff
    (parser : UsbdParser)
    (configuration : ConfigurationDescriptor)
    (count : Nat) :
    (SelectionLoop.after parser configuration count).Running configuration ↔
      (parser.search configuration count).found.length <
        configuration.bNumInterfaces.toNat := by
  have bounded := Search.length_found_le (parser.probe configuration)
    configuration.bNumInterfaces.toNat count
  have announced := toNat_lt configuration.bNumInterfaces
  rw [SelectionLoop.after_eq]
  exact int32_ofNat_lt_iff (Nat.lt_of_le_of_lt bounded announced) announced

/-! ## Interface numbers -/

/-- An interface number is none of the values that ask for any interface. -/
theorem int32_ofNat_ne_any
    (small : index < interfaceNumbers) :
    Int32.ofNat index ≠ -1 := by
  intro same
  have values := congrArg Int32.toInt same
  have bounded : index < 2 ^ 31 := Nat.lt_trans small (by decide)
  rw [Int32.toInt_ofNat_of_lt bounded] at values
  change (index : Int) = -1 at values
  omega

/-- A descriptor matches a number and alternate setting 0 exactly when it has
both. -/
theorem matches_iff
    {descriptor : InterfaceDescriptor}
    (small : index < interfaceNumbers) :
    descriptor.Matches (Int32.ofNat index) 0 ↔
      descriptor.bInterfaceNumber.toNat = index ∧
        descriptor.bAlternateSetting = 0 := by
  have bounded : index < 2 ^ 31 := Nat.lt_trans small (by decide)
  constructor
  · rintro ⟨number, setting⟩
    refine ⟨int32_ofNat_inj (toNat_lt _) bounded number, ?_⟩
    apply UInt8.toNat_inj.mp
    exact int32_ofNat_inj (toNat_lt _) (by decide) setting
  · rintro ⟨rfl, setting⟩
    refine ⟨rfl, ?_⟩
    rw [setting]
    rfl

/-- What is found for a number is present and has it. -/
theorem UsbdParser.probe_eq_some
    {parser : UsbdParser}
    {configuration : ConfigurationDescriptor}
    (small : index < interfaceNumbers)
    (probed : parser.probe configuration index = some found) :
    found ∈ configuration.interfaces ∧
      found.bInterfaceNumber.toNat = index ∧
      found.bAlternateSetting = 0 := by
  obtain ⟨member, asked⟩ := parser.matches_of_found _ _ _ _
    (int32_ofNat_ne_any small) (by decide) probed
  exact ⟨member, (matches_iff small).mp asked⟩

/-- A number that is present is found. -/
theorem UsbdParser.isSome_probe
    {parser : UsbdParser}
    {configuration : ConfigurationDescriptor}
    {descriptor : InterfaceDescriptor}
    (member : descriptor ∈ configuration.interfaces)
    (setting : descriptor.bAlternateSetting = 0) :
    (parser.probe configuration descriptor.bInterfaceNumber.toNat).isSome := by
  have small : descriptor.bInterfaceNumber.toNat < interfaceNumbers :=
    descriptor.bInterfaceNumber.toNat_lt
  exact parser.found_of_matches _ _ _ _ (int32_ofNat_ne_any small) (by decide)
    member ((matches_iff small).mpr ⟨rfl, setting⟩)

/-- A number is present exactly when a descriptor with alternate setting 0 has
it. -/
theorem mem_present_iff
    {configuration : ConfigurationDescriptor} :
    number ∈ configuration.present ↔
      ∃ descriptor ∈ configuration.interfaces,
        descriptor.bAlternateSetting = 0 ∧
          descriptor.bInterfaceNumber = number := by
  simp only [ConfigurationDescriptor.present, List.mem_dedup, List.mem_map,
    List.mem_filter, decide_eq_true_eq, and_assoc]

/-- The numbers of what was found, as values of their fields, are distinct. -/
theorem nodup_numbers
    (parser : UsbdParser)
    (configuration : ConfigurationDescriptor)
    (few : count ≤ interfaceNumbers) :
    ((Search.hits (parser.probe configuration) count).map
      InterfaceDescriptor.bInterfaceNumber).Nodup := by
  apply List.Nodup.of_map UInt8.toNat
  rw [List.map_map]
  apply Search.nodup_hits
  intro index below value probed
  exact (parser.probe_eq_some (Nat.lt_of_lt_of_le below few) probed).2.1

/-- The interface numbers of a configuration are those that are found when all
are asked for. -/
theorem length_hits_eq
    (parser : UsbdParser)
    (configuration : ConfigurationDescriptor) :
    (Search.hits (parser.probe configuration) interfaceNumbers).length =
      configuration.present.length := by
  have same : ((Search.hits (parser.probe configuration)
      interfaceNumbers).map InterfaceDescriptor.bInterfaceNumber).Perm
        configuration.present := by
    apply (List.perm_ext_iff_of_nodup
      (nodup_numbers parser configuration (Nat.le_refl _))
      (List.nodup_dedup _)).mpr
    intro number
    refine Iff.trans List.mem_map (Iff.trans ?_ mem_present_iff.symm)
    constructor
    · rintro ⟨descriptor, member, rfl⟩
      obtain ⟨index, small, probed⟩ := Search.mem_hits_iff.mp member
      obtain ⟨member, -, setting⟩ := parser.probe_eq_some small probed
      exact ⟨descriptor, member, setting, rfl⟩
    · rintro ⟨descriptor, member, setting, rfl⟩
      obtain ⟨found, probed⟩ := Option.isSome_iff_exists.mp
        (parser.isSome_probe member setting)
      have small : descriptor.bInterfaceNumber.toNat < interfaceNumbers :=
        descriptor.bInterfaceNumber.toNat_lt
      obtain ⟨-, number, -⟩ := parser.probe_eq_some small probed
      exact ⟨found, Search.mem_hits_iff.mpr ⟨_, small, probed⟩,
        UInt8.toNat_inj.mp number⟩
  rw [← List.length_map InterfaceDescriptor.bInterfaceNumber]
  exact same.length_eq

/-! ## Which configurations end the search -/

/-- The iterations of the loop find enough interfaces exactly when as many
numbers are present as announced. -/
theorem exists_enough_iff
    (parser : UsbdParser)
    (configuration : ConfigurationDescriptor) :
    (∃ count ≤ interfaceNumbers,
        ¬ (SelectionLoop.after parser configuration count).Running
          configuration) ↔
      configuration.bNumInterfaces.toNat ≤ configuration.present.length := by
  simp only [running_after_iff, Nat.not_lt]
  rw [← length_hits_eq parser]
  constructor
  · rintro ⟨count, few, enough⟩
    have found := (Search.wanted_le_found_iff _ _ _).mp enough
    exact Nat.le_trans found (Search.length_hits_mono _ few)
  · intro enough
    exact ⟨interfaceNumbers, Nat.le_refl _,
      (Search.wanted_le_found_iff _ _ _).mpr enough⟩

/-- Where enough numbers are present, no interface is listed twice. -/
theorem nodup_found
    {parser : UsbdParser}
    {configuration : ConfigurationDescriptor}
    (enough : configuration.bNumInterfaces.toNat ≤
      configuration.present.length)
    (count : Nat) :
    ((parser.search configuration count).found.map
      InterfaceDescriptor.bInterfaceNumber).Nodup := by
  rw [← length_hits_eq parser] at enough
  have few := Search.index_le enough count
  obtain ⟨index, -, state, -, -⟩ := Search.after_eq
    (parser.probe configuration) configuration.bNumInterfaces.toNat count
  rw [state] at few
  rw [UsbdParser.search, state]
  exact nodup_numbers parser configuration few

/-- The search ends, with a list as it should be, exactly when the list cannot
be allocated or the descriptor has at least as many interface numbers with
alternate setting 0 as it announces. -/
theorem selectionEnds_iff
    (parser : UsbdParser)
    (allocates : Bool)
    (configuration : ConfigurationDescriptor) :
    SelectionEnds parser allocates configuration ↔
      (allocates = true →
        configuration.bNumInterfaces.toNat ≤
          configuration.present.length) := by
  cases allocates with
  | false =>
      refine iff_of_true ⟨⟨0, Nat.zero_le _, nofun⟩, ?_⟩ nofun
      intro iterations interfaceList listed
      contradiction
  | true =>
      refine Iff.trans ?_ (forall_prop_of_true rfl).symm
      rw [← exists_enough_iff parser]
      constructor
      · rintro ⟨⟨iterations, few, ended⟩, -⟩
        refine ⟨iterations, few, fun running =>
          ended (SelectionLoop.after parser configuration iterations) ?_⟩
        rw [selectInterfaces, if_neg (by decide)]
        exact if_pos running
      · rintro ⟨iterations, few, ended⟩
        refine ⟨⟨iterations, few, ?_⟩, ?_⟩
        · intro loop
          rw [selectInterfaces, if_neg (by decide)]
          simp only [if_neg ended]
          exact nofun
        · intro iterations' interfaceList listed
          rw [selectInterfaces, if_neg (by decide)] at listed
          simp only at listed
          split at listed
          · contradiction
          · cases listed
            refine ⟨(parser.search configuration iterations').found, ?_, ?_,
              ?_⟩
            · rw [SelectionLoop.after_eq]
            · exact Search.length_found_le _ _ _
            · exact nodup_found ((exists_enough_iff parser configuration).mp
                ⟨iterations, few, ended⟩) iterations'

/-- A parser that returns the first descriptor that matches; a number of -1
matches every descriptor. -/
def firstMatch : UsbdParser where
  parseConfigurationDescriptorEx configuration interfaceNumber
      alternateSetting :=
    configuration.interfaces.find? fun descriptor =>
      (interfaceNumber = -1 ∨
          longOfByte descriptor.bInterfaceNumber = interfaceNumber) ∧
        (alternateSetting = -1 ∨
          longOfByte descriptor.bAlternateSetting = alternateSetting)
  matches_of_found := by
    intro configuration interfaceNumber alternateSetting found one setting
      result
    have asked := List.find?_some result
    simp only [one, setting, false_or, decide_eq_true_eq] at asked
    exact ⟨List.mem_of_find?_eq_some result, asked⟩
  found_of_matches := by
    intro configuration interfaceNumber alternateSetting present _ _ member
      asked
    rw [List.find?_isSome]
    refine ⟨present, member, decide_eq_true ?_⟩
    exact ⟨.inr asked.1, .inr asked.2⟩

/-- A configuration that announces an interface and has none. -/
def noInterface : ConfigurationDescriptor where
  bNumInterfaces := 1
  interfaces := []

/-- The loop never ends for a configuration that announces an interface and
has none. -/
theorem not_selectionEnds_noInterface :
    (∀ iterations, ∃ loop,
        selectInterfaces firstMatch true noInterface iterations =
          .searching loop) ∧
      ¬ SelectionEnds firstMatch true noInterface := by
  have running : ∀ iterations,
      (SelectionLoop.after firstMatch noInterface iterations).Running
        noInterface := by
    intro iterations
    have nothing : Search.hits (firstMatch.probe noInterface) iterations = [] :=
      List.filterMap_eq_nil_iff.mpr fun _ _ => rfl
    rw [running_after_iff, ← Nat.not_le, UsbdParser.search,
      Search.wanted_le_found_iff, nothing]
    exact Nat.not_succ_le_zero 0
  constructor
  · intro iterations
    refine ⟨SelectionLoop.after firstMatch noInterface iterations, ?_⟩
    rw [selectInterfaces, if_neg (by decide)]
    exact if_pos (running iterations)
  · rintro ⟨⟨iterations, -, ended⟩, -⟩
    apply ended
    rw [selectInterfaces, if_neg (by decide)]
    exact if_pos (running iterations)

end Usb
end BthEmul
