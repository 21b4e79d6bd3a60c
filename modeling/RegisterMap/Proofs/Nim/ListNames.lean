import RegisterMap.Proofs.Device.DerivedHeaders
import RegisterMap.Proofs.Device.Everywhere
import RegisterMap.Proofs.Nim.NodeKinds

/-!
# Names for the types of lists

The type of a repeated node is called as its repetition says, else as its header structure says.
Expansion takes the repetition away, so it has to leave that name in the header structure of every
instance. For peripherals it does. For clusters it looks at the header structure first, and
instances are called otherwise than the same node read as an array if both give a name.

## Main definitions

* `Peripheral.StandsFor`, `Cluster.StandsFor` : a node of the expanded device stems from another.
* `Device.HasCluster` : a cluster at some depth of a device.
* `Cluster.NamesAgree` : it does not matter which name for a cluster's type comes first.

## Main results

* `Device.mem_peripherals_expand_iff`, `Device.hasCluster_expand_iff` : every peripheral and cluster
  of the expanded device stems from a declared one.
* `baseName_arrayName` : a list and the array that it is read as have one base name.
* `Device.names_of_expand` : which instances ask for the name that the list asks for.
-/

namespace RegisterMap

/-! ### Where nodes stem from -/

/-- A peripheral is one of those that another stands for. -/
def Peripheral.StandsFor (p p' : Peripheral) : Prop := ∃ ps, p.expand.outcome = .ok ps ∧ p' ∈ ps

/-- A cluster is one of those that another stands for. -/
def Cluster.StandsFor (c c' : Cluster) : Prop := ∃ cs, c.expand = .ok cs ∧ c' ∈ cs

/-- A cluster inside a node, at every depth. -/
inductive Contents.HasCluster : Contents → Cluster → Prop
  | own {c : Contents} {inner : Cluster} (hc : inner ∈ c.clusters) : HasCluster c inner
  | inside {c : Contents} {inner e : Cluster} (hc : inner ∈ c.clusters)
      (h : HasCluster inner.contents e) : HasCluster c e

/-- A cluster of a device, at every depth. -/
def Device.HasCluster (d : Device) (c : Cluster) : Prop :=
  ∃ p ∈ d.peripherals, p.contents.HasCluster c

/-- What a cluster stands for is the cluster with its contents expanded, or an instance of that. -/
theorem Cluster.mem_expand {c x : Cluster} {cs : List Cluster} (h : c.expand = .ok cs)
    (hx : x ∈ cs) :
    ∃ registers clusters, expandRegisters c.registers = .ok registers ∧
      expandClusters c.clusters = .ok clusters ∧
      (isList c.name c.repetition = false ∧ x = { c with registers, clusters } ∨
        ∃ name offset, x = { c with
          name, offset, registers, clusters
          headerStructName := nonemptyOr c.headerStructName (c.repetition.bind (·.name))
          repetition := none }) := by
  rw [expand_eq] at h
  obtain ⟨registers, hr, h⟩ := bind_eq_ok_iff.1 h
  obtain ⟨clusters, hc, h⟩ := bind_eq_ok_iff.1 h
  refine ⟨registers, clusters, hr, hc, ?_⟩
  rw [expandSelf] at h
  split at h
  · obtain ⟨instances, -, h⟩ := bind_eq_ok_iff.1 h
    cases Except.ok.inj h
    obtain ⟨⟨index, distance⟩, -, rfl⟩ := List.mem_map.1 hx
    exact .inr ⟨_, _, rfl⟩
  · next single =>
    cases Except.ok.inj h
    exact .inl ⟨Bool.eq_false_iff.2 single, List.mem_singleton.1 hx⟩

/-- A cluster stands for at least one. -/
theorem Cluster.exists_standsFor {c : Cluster} {cs : List Cluster} (h : c.expand = .ok cs) :
    ∃ c', c.StandsFor c' := by
  suffices some : cs ≠ [] by
    obtain ⟨c', hc'⟩ := List.exists_mem_of_ne_nil cs some
    exact ⟨c', cs, h, hc'⟩
  rw [expand_eq] at h
  obtain ⟨registers, -, h⟩ := bind_eq_ok_iff.1 h
  obtain ⟨clusters, -, h⟩ := bind_eq_ok_iff.1 h
  rw [expandSelf] at h
  split at h
  · obtain ⟨instances, hi, h⟩ := bind_eq_ok_iff.1 h
    cases Except.ok.inj h
    simpa using listInstances_ne_nil hi
  · cases Except.ok.inj h
    exact List.cons_ne_nil _ _

/-- What is inside a peripheral is expanded with it. -/
theorem Peripheral.StandsFor.expandClusters {p p' : Peripheral} (h : p.StandsFor p') :
    expandClusters p.contents.clusters = .ok p'.contents.clusters := by
  obtain ⟨ps, made, hp⟩ := h
  exact (isExpanded_of_mem_expand made hp).2.2.2

/-- What is inside a cluster is expanded with it. -/
theorem Cluster.StandsFor.expandClusters {c c' : Cluster} (h : c.StandsFor c') :
    expandClusters c.contents.clusters = .ok c'.contents.clusters := by
  obtain ⟨cs, made, hc⟩ := h
  obtain ⟨registers, clusters, -, inside, ⟨-, rfl⟩ | ⟨name, offset, rfl⟩⟩ := mem_expand made hc
  · exact inside
  · exact inside

section Clusters

variable {c c' : Contents} {x : Cluster}

/-- The clusters directly inside an expanded node are those that its clusters stand for. -/
theorem mem_expandClusters_iff {cs cs' : List Cluster} (h : expandClusters cs = .ok cs') :
    x ∈ cs' ↔ ∃ e ∈ cs, e.StandsFor x := by
  rw [expandClusters_eq_flatMapM] at h
  exact mem_flatMapM_iff h

/-- So are the clusters at every depth. -/
theorem Contents.hasCluster_expand_iff (h : expandClusters c.clusters = .ok c'.clusters) :
    c'.HasCluster x ↔ ∃ e, c.HasCluster e ∧ e.StandsFor x := by
  constructor
  · intro found
    induction found generalizing c with
    | own hx =>
      obtain ⟨e, he, stands⟩ := (mem_expandClusters_iff h).1 hx
      exact ⟨e, .own he, stands⟩
    | inside hi _ ih =>
      obtain ⟨inner, hc, stands⟩ := (mem_expandClusters_iff h).1 hi
      obtain ⟨e, he, origin⟩ := ih stands.expandClusters
      exact ⟨e, .inside hc he, origin⟩
  · rintro ⟨e, he, stands⟩
    induction he generalizing c' with
    | own he => exact .own ((mem_expandClusters_iff h).2 ⟨_, he, stands⟩)
    | @inside c inner e hc _ ih =>
      rw [expandClusters_eq_flatMapM] at h
      obtain ⟨_, made⟩ := exists_of_mem_flatMapM h hc
      rw [← expandClusters_eq_flatMapM] at h
      obtain ⟨inner', first⟩ := Cluster.exists_standsFor made
      exact .inside ((mem_expandClusters_iff h).2 ⟨inner, hc, first⟩)
        (ih first.expandClusters stands)

end Clusters

section Devices

variable {d d' : Device}

/-- The peripherals of the expanded device are those that declared ones stand for. -/
theorem Device.mem_peripherals_expand_iff (h : d.expand.outcome = .ok d') {p' : Peripheral} :
    p' ∈ d'.peripherals ↔ ∃ p ∈ d.peripherals, p.StandsFor p' := by
  rw [outcome_expand] at h
  obtain ⟨ps, hps, rfl⟩ := map_eq_ok_iff.1 h
  exact mem_flatMapM_iff hps

/-- The clusters of the expanded device are those that declared ones stand for. -/
theorem Device.hasCluster_expand_iff (h : d.expand.outcome = .ok d') {c' : Cluster} :
    d'.HasCluster c' ↔ ∃ c, d.HasCluster c ∧ c.StandsFor c' := by
  constructor
  · rintro ⟨p', hp', found⟩
    obtain ⟨p, hp, source⟩ := (mem_peripherals_expand_iff h).1 hp'
    obtain ⟨c, hc, stands⟩ := (Contents.hasCluster_expand_iff source.expandClusters).1 found
    exact ⟨c, ⟨p, hp, hc⟩, stands⟩
  · rintro ⟨c, ⟨p, hp, hc⟩, stands⟩
    obtain ⟨ps, made⟩ : ∃ ps, p.expand.outcome = .ok ps := by
      rw [outcome_expand] at h
      obtain ⟨_, hps, -⟩ := map_eq_ok_iff.1 h
      exact exists_of_mem_flatMapM hps hp
    obtain ⟨p', mem⟩ := List.exists_mem_of_ne_nil ps (Peripheral.expand_ne_nil made)
    have source : p.StandsFor p' := ⟨ps, made, mem⟩
    exact ⟨p', (mem_peripherals_expand_iff h).2 ⟨p, hp, source⟩,
      (Contents.hasCluster_expand_iff source.expandClusters).2 ⟨c, hc, stands⟩⟩

end Devices

/-! ### Base names of arrays -/

/-- Where a character other than a bracket stands in a filled-in array name, it stood before. -/
theorem substitute_eq_cons {cs ds : List Char} {d : Char} (other : d ≠ '[')
    (h : substitute ['[', '%', 's', ']'] cs = d :: ds) :
    ∃ es, cs = d :: es ∧ substitute ['[', '%', 's', ']'] es = ds ∧
      ∀ rest, d = '%' → es ≠ 's' :: rest := by
  fun_cases substitute ['[', '%', 's', ']'] cs with
  | case1 es =>
    cases h
    exact absurd rfl other
  | case2 c es single =>
    rw [substitute] at h
    · cases h
      exact ⟨es, rfl, rfl, fun rest percent start => single rest percent start⟩
    · exact single
  | case3 => cases h

/-- Brackets around the placeholders of a list go with them. -/
theorem dropPlaceholders_substitute {cs : List Char}
    (list : occursIn ['[', '%', 's', ']'] cs = false) :
    dropPlaceholders (substitute ['[', '%', 's', ']'] cs) = dropPlaceholders cs := by
  have tail : ∀ {c : Char} {cs : List Char}, occursIn ['[', '%', 's', ']'] (c :: cs) = false →
      occursIn ['[', '%', 's', ']'] cs = false := fun h => (Bool.or_eq_false_iff.1 h).2
  fun_induction dropPlaceholders cs with
  | case1 cs ih => simp [occursIn, List.isPrefixOf] at list
  | case2 cs ih =>
    rw [substitute]
    exact ih (tail (tail list))
  | case3 c cs array single ih =>
    rw [substitute]
    · rw [dropPlaceholders, ih (tail list)]
      · rintro rest rfl start
        obtain ⟨es, rfl, letter, other⟩ := substitute_eq_cons (by decide) start
        obtain ⟨es, rfl, -⟩ := substitute_eq_cons (by decide) letter
        exact other _ rfl rfl
      · rintro rest rfl start
        obtain ⟨es, rfl, -⟩ := substitute_eq_cons (by decide) start
        exact single _ rfl rfl
    · exact single
  | case4 => rfl

/-- A list and the array that it is read as have one base name. -/
theorem baseName_arrayName (name : String) (r : Option Repetition) :
    baseName (arrayName name r) = baseName name := by
  rw [arrayName]
  split
  · next list =>
    simp only [isList, isListName, Bool.and_eq_true, Bool.not_eq_true'] at list
    rw [baseName, fillPlaceholder, String.toList_ofList]
    exact congrArg String.ofList (dropPlaceholders_substitute list.2.2)
  · rfl

/-! ### Names of instances -/

/-- It does not matter whether the repetition or the header structure of a cluster is asked first
for the name of its type: only one gives a name, or both are the same. -/
def Cluster.NamesAgree (c : Cluster) : Prop :=
  (IsGiven c.headerStructName ↔ IsGiven (c.repetition.bind (·.name))) →
    c.headerStructName = c.repetition.bind (·.name)

section Instances

variable {p p' : Peripheral} {c c' : Cluster}

/-- Reading lists as arrays keeps the name of a peripheral's layout. -/
theorem Peripheral.structName_asArrays (p : Peripheral) : p.asArrays.structName = p.structName := by
  change (repetitionName? p.repetition).getD ((nonemptyOr p.headerStructName none).getD
    (baseName (arrayName p.name p.repetition))) = _
  rw [baseName_arrayName, structName]

/-- The instances of a list of peripherals have the name of the list's layout. -/
theorem Peripheral.StandsFor.header (h : p.StandsFor p')
    (list : isList p.name p.repetition = true) :
    p'.headerStructName = some p.structName ∧ p'.repetition = none := by
  obtain ⟨ps, made, hp⟩ := h
  obtain ⟨-, -, -, -, ⟨single, -⟩ | ⟨-, -, rfl⟩⟩ := mem_expand made hp
  · exact absurd list (Bool.eq_false_iff.1 single)
  · exact ⟨rfl, rfl⟩

/-- The instances of a list of clusters have the name of its header structure, or else of its
repetition. -/
theorem Cluster.StandsFor.header (h : c.StandsFor c') (list : isList c.name c.repetition = true) :
    c'.headerStructName = nonemptyOr c.headerStructName (c.repetition.bind (·.name)) ∧
      c'.repetition = none := by
  obtain ⟨cs, made, hc⟩ := h
  obtain ⟨-, -, -, -, ⟨single, -⟩ | ⟨-, -, rfl⟩⟩ := mem_expand made hc
  · exact absurd list (Bool.eq_false_iff.1 single)
  · exact ⟨rfl, rfl⟩

/-- An instance of a list of peripherals asks for the name of the list's layout, unless that is
empty and the instance falls back on a name of its own. -/
theorem Peripheral.StandsFor.structName_eq_iff (h : p.StandsFor p')
    (list : isList p.name p.repetition = true) :
    p'.structName = p.structName ↔ (p.structName = "" → baseName p'.name = "") := by
  obtain ⟨header, single⟩ := h.header list
  by_cases named : p.structName = ""
  · have own : p'.structName = baseName p'.name := by
      rw [structName, header, single, named]
      rfl
    simp [own, named]
  · simp [structName_instance named header single, named]

/-- An instance of a list of clusters has the name that the list asks for if that does not depend on
what is asked first. -/
theorem Cluster.StandsFor.header_eq_iff (h : c.StandsFor c')
    (list : isList c.name c.repetition = true) :
    c'.headerStructName = Nim.givenName? (.cluster c) ↔ c.NamesAgree := by
  rw [(h.header list).1]
  exact nonemptyOr_comm_iff

end Instances

namespace Device

open Nim (givenName? peripheralClaim)

/-- **Names of instances.** Every peripheral and cluster of the expanded device stems from a
declared one. The header structure of an instance of a list of peripherals has the name that the
list asks for, and the instance claims it as the array would, unless it is empty. The header
structure of an instance of a list of clusters has the name that the list asks for, and the instance
claims it as the array would, if and only if the repetition and the header structure of the list
agree. -/
theorem names_of_expand {d d' : Device} (h : d.expand.outcome = .ok d') :
    (∀ p', p' ∈ d'.peripherals ↔ ∃ p ∈ d.peripherals, p.StandsFor p') ∧
    (∀ c', d'.HasCluster c' ↔ ∃ c, d.HasCluster c ∧ c.StandsFor c') ∧
    (∀ p p' : Peripheral, p.StandsFor p' → isList p.name p.repetition = true →
      p'.headerStructName = some p.structName ∧
      (peripheralClaim p' = peripheralClaim p.asArrays ↔
        (p.structName = "" → baseName p'.name = ""))) ∧
    ∀ c c' : Cluster, c.StandsFor c' → isList c.name c.repetition = true →
      (c'.headerStructName = givenName? (.cluster c) ↔ c.NamesAgree) ∧
      (givenName? (.cluster c') = givenName? (.cluster c.asArrays) ↔ c.NamesAgree) := by
  refine ⟨fun p' => mem_peripherals_expand_iff h, fun c' => hasCluster_expand_iff h,
    fun p p' stands list => ⟨(stands.header list).1, ?_⟩, fun c c' stands list => ?_⟩
  · have claims : peripheralClaim p' = peripheralClaim p.asArrays ↔
        p'.structName = p.structName := by
      simp [peripheralClaim, Peripheral.structName_asArrays]
    rw [claims, stands.structName_eq_iff list]
  · have single : givenName? (.cluster c') = c'.headerStructName := by
      rw [givenName?, (stands.header list).2]
      rfl
    have array : givenName? (.cluster c.asArrays) = givenName? (.cluster c) := by
      rw [Cluster.asArrays_eq]
      rfl
    have agree := stands.header_eq_iff list
    rw [single, array]
    exact ⟨agree, agree⟩

end Device

/-- A list of queues that is named by its header structure. -/
def queueList : Cluster where
  name := "QUEUE%s"
  offset := 0x10
  headerStructName := some "FIFO"
  repetition := some { count := some 2, increment := some 4 }
  registers := [{ name := "DATA", offset := 0 }]

/-- A list of channels that is named by its repetition and holds the queues. -/
def channelList : Cluster where
  name := "CH%s"
  offset := 0x20
  repetition := some { count := some 2, increment := some 0x20, name := some "LINK" }
  clusters := [queueList]

/-- A list of ports that hold the channels. Both names of its type are given. -/
def listedPorts : Device where
  name := "BOARD"
  peripherals := [{
    name := "PORT%s", baseAddress := 0x40000000
    headerStructName := some "SOCKET"
    repetition := some { count := some 2, increment := some 0x100, name := some "PLUG" }
    clusters := [channelList] }]

/-- All instances of the lists have the names of the lists. -/
theorem names_of_expand_listedPorts : ∃ d', listedPorts.expand.outcome = .ok d' ∧
    d'.peripherals.map (fun p => (p.name, p.headerStructName)) =
      [("PORT0", some "PLUG"), ("PORT1", some "PLUG")] ∧
    ∀ c', d'.HasCluster c' → c'.headerStructName = some "LINK" ∨
      c'.headerStructName = some "FIFO" := by
  have run : (listedPorts.expand.outcome.map fun d' =>
      d'.peripherals.map fun p => (p.name, p.headerStructName)) =
        .ok [("PORT0", some "PLUG"), ("PORT1", some "PLUG")] := by
    decide +kernel
  obtain ⟨d', h, names⟩ := map_eq_ok_iff.1 run
  obtain ⟨-, clusters, -, instances⟩ := Device.names_of_expand h
  have declared : ∀ c, listedPorts.HasCluster c → c = channelList ∨ c = queueList := by
    rintro c ⟨p, hp, found⟩
    cases List.mem_singleton.1 hp
    cases found with
    | own hc => exact .inl (List.mem_singleton.1 hc)
    | inside hc found =>
      cases List.mem_singleton.1 hc
      cases found with
      | own hc => exact .inr (List.mem_singleton.1 hc)
      | inside hc found =>
        cases List.mem_singleton.1 hc
        cases found <;> contradiction
  have channels : channelList.NamesAgree := by
    simp [Cluster.NamesAgree, channelList, isGiven_some_iff, not_isGiven_none]
  have queues : queueList.NamesAgree := by
    simp [Cluster.NamesAgree, queueList, isGiven_some_iff, not_isGiven_none]
  refine ⟨d', h, names, fun c' hc' => ?_⟩
  obtain ⟨c, hc, stands⟩ := (clusters c').1 hc'
  rcases declared c hc with rfl | rfl
  · exact .inl ((instances _ _ stands (by decide)).1.2 channels)
  · exact .inr ((instances _ _ stands (by decide)).1.2 queues)

/-- A list of channels whose repetition and header structure give different names. -/
def twiceNamedList : Cluster :=
  { channelList with headerStructName := some "CHANNEL", clusters := [] }

/-- A port that holds it. -/
def twiceNamedPort : Device where
  name := "BOARD"
  peripherals := [{ name := "PORT", baseAddress := 0x40000000, clusters := [twiceNamedList] }]

theorem not_forall_header_eq_givenName : ¬ ∀ d d' : Device, d.expand.outcome = .ok d' →
    ∀ c c', d.HasCluster c → isList c.name c.repetition = true → c.StandsFor c' →
      c'.headerStructName = Nim.givenName? (.cluster c) := by
  intro all
  have run : (twiceNamedPort.expand.outcome.map (·.name)) = .ok "BOARD" := by decide +kernel
  obtain ⟨d', h, -⟩ := map_eq_ok_iff.1 run
  have declared : twiceNamedPort.HasCluster twiceNamedList := ⟨_, .head _, .own (.head _)⟩
  have expanded : (twiceNamedList.expand.map fun cs => cs.map (·.headerStructName)) =
      .ok [some "CHANNEL", some "CHANNEL"] := by
    decide +kernel
  obtain ⟨cs, made, -⟩ := map_eq_ok_iff.1 expanded
  obtain ⟨c', stands⟩ := Cluster.exists_standsFor made
  have header := all _ _ h _ _ declared (by decide) stands
  rw [(stands.header (by decide)).1] at header
  exact absurd header (by decide)

end RegisterMap
