import InfinibandDiags.Cache.Edit
import InfinibandDiags.Discover.NodeIndex

/-! What `ibcacheedit` does to a fabric that a cache file can hold. -/
namespace InfinibandDiags

/-- Other GUIDs and other NodeInfos. -/
def Fabric.relabel (f : Fabric) (nodeGuid : NodeRef → UInt64) (info : NodeRef → SmpData)
    (portGuid : PortRef → UInt64) : Fabric :=
  { f with
    node := fun n => { f.node n with guid := nodeGuid n, info := info n }
    port := fun p => { f.port p with guid := portGuid p } }

theorem Fabric.TypeLists.typeList {f : Fabric} (hlists : f.TypeLists) {type : Nat}
    (ht : type = ibNodeSwitch ∨ type = ibNodeCa) :
    f.typeList type = f.nodes.filter fun n => (f.node n).type = type := by
  rcases ht with rfl | rfl
  · exact hlists.switches
  · exact hlists.chAdapters

namespace Fabric.Cacheable
variable {f : Fabric} {g : Grouping} {ports : List PortRef} {nodeGuid : NodeRef → UInt64}
  {info : NodeRef → SmpData} {portGuid : PortRef → UInt64}

/-- The GUIDs may be any, as long as they tell the nodes and the ports apart. -/
theorem relabel (h : f.Cacheable g ports)
    (hnode : ∀ n ∈ f.nodes, ∀ m ∈ f.nodes, nodeGuid n = nodeGuid m → n = m)
    (hport : ∀ p ∈ ports, ∀ q ∈ ports, portGuid p = portGuid q →
      (f.port p).portnum = (f.port q).portnum → p = q) :
    (f.relabel nodeGuid info portGuid).Cacheable g ports where
  iterPorts := h.iterPorts
  fromNode := h.fromNode
  counts := h.counts
  guids := h.nodup_nodes.map_on hnode
  keys := h.nodup_ports.map_on fun p hp q hq hkey => by
    obtain ⟨hguid, hnum⟩ := PortCacheKey.mk.inj hkey
    have hnat : (UInt8.ofNat (f.port p).portnum).toNat =
        (UInt8.ofNat (f.port q).portnum).toNat := congrArg UInt8.toNat hnum
    rw [UInt8.toNat_ofNat_of_lt' (h.portnum_lt hp), UInt8.toNat_ofNat_of_lt' (h.portnum_lt hq)]
      at hnat
    exact hport p hp q hq hguid hnat
  numports := h.numports
  record := fun n hn => ⟨⟨(h.record n hn).1.smaenhsp0, (h.record n hn).1.type,
    (h.record n hn).1.portnum⟩, (h.record n hn).2⟩
  extPortnum := h.extPortnum
  slots := h.slots
  inArray := h.inArray
  remotes := h.remotes
  lids := h.lids

end Fabric.Cacheable

namespace Cacheedit
variable {f : Fabric} {g : Grouping} {ports : List PortRef} {n m : NodeRef} {guids : Guids}

section Iterations
variable {σ : Type} {step : NodeRef → σ → σ} {l : List NodeRef} {s : σ}

end Iterations

/-- The nodes that get a new GUID. -/
def Edit.Renames (e : Edit) (f : Fabric) (n : NodeRef) : Prop :=
  n ∈ f.nodes ∧ match e with
    | .switchguid before _ => (f.node n).type = ibNodeSwitch ∧ (f.node n).guid = before
    | .caguid before _ => (f.node n).type = ibNodeCa ∧ (f.node n).guid = before
    | .sysimgguid _ _ => False
    | .portguid nodeguid before _ =>
        (f.node n).type = ibNodeSwitch ∧ (f.node n).guid = nodeguid ∧ nodeguid = before

/-- The one port of a node that is not a switch that gets a new GUID. -/
def Edit.Picks (e : Edit) (f : Fabric) (p : PortRef) : Prop :=
  match e with
  | .portguid nodeguid before _ => ∃ n ∈ f.nodes, (f.node n).guid = nodeguid ∧
      (f.node n).type ≠ ibNodeSwitch ∧ firstPort f n before = some p
  | _ => False

def Edit.Moves (e : Edit) (f : Fabric) (p : PortRef) : Prop :=
  (∃ n, e.Renames f n ∧ (f.node n).type = ibNodeSwitch ∧ p ∈ f.presentPorts n) ∨ e.Picks f p

def Edit.after : Edit → UInt64
  | .switchguid _ after => after
  | .caguid _ after => after
  | .sysimgguid _ after => after
  | .portguid _ _ after => after

/-- The NodeInfo with another SystemImageGUID, where an edit is about that. -/
def Edit.info (e : Edit) (f : Fabric) (n : NodeRef) : SmpData :=
  match e with
  | .sysimgguid before after =>
      if n ∈ f.nodes ∧ (f.node n).info.field64 .nodeSystemGuid = before then
        (f.node n).info.setField64 .nodeSystemGuid after else (f.node n).info
  | _ => (f.node n).info

open Classical in
/-- The fabric as an edit is meant to leave it. -/
noncomputable def Edit.result (e : Edit) (f : Fabric) : Fabric :=
  f.relabel (fun n => if e.Renames f n then e.after else (f.node n).guid) (e.info f)
    fun p => if e.Moves f p then e.after else (f.port p).guid

/-- Something in the fabric is what the edit looks for. -/
def Edit.Found (e : Edit) (f : Fabric) : Prop :=
  match e with
  | .sysimgguid before _ => ∃ n ∈ f.nodes, (f.node n).info.field64 .nodeSystemGuid = before
  | e => (∃ n, e.Renames f n) ∨ ∃ p, e.Picks f p

section Applying
variable {e : Edit}

theorem Edit.Picks.unique (h : f.Cacheable g ports) {p q : PortRef} (hp : e.Picks f p)
    (hq : e.Picks f q) : p = q := by
  cases e with
  | portguid nodeguid before after =>
      obtain ⟨n, hn, hguid, -, hfirst⟩ := hp
      obtain ⟨m, hm, hguid', -, hfirst'⟩ := hq
      obtain rfl := List.inj_on_of_nodup_map h.guids hn hm (hguid.trans hguid'.symm)
      exact Option.some.inj (hfirst.symm.trans hfirst')
  | _ => exact hp.elim

end Applying

noncomputable def results (es : List Edit) (f : Fabric) : Fabric :=
  es.foldl (fun f e => e.result f) f

section Program
variable {f₀ : Fabric} {g₀ : Grouping} {ports₀ : List PortRef} {orig : Bytes}

end Program

end Cacheedit
end InfinibandDiags
