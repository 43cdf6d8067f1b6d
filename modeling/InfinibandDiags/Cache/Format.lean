import InfinibandDiags.Fabric.Basic
import InfinibandDiags.Library.LittleEndian

/-! The records of a cache file (ibnetdisc_cache.c). All numbers are little endian. -/
namespace InfinibandDiags

def ibndFabricCacheMagic : UInt32 := 0x8FE7832B
def ibndFabricCacheVersion : UInt32 := 0x00000001

def ibndFabricCacheCountOffset : Nat := 8

def ibndFabricCacheHeaderLen : Nat := 28
def ibndNodeCacheHeaderLen : Nat := 15 + ibSmpDataSize * 3
def ibndPortCacheKeyLen : Nat := 8 + 1
def ibndPortCacheLen : Nat := 31 + ibSmpDataSize

/-- `ibnd_port_cache_key_t`. -/
structure PortCacheKey where
  guid : UInt64
  portnum : UInt8
  deriving DecidableEq, Repr

/-- What the file has of the header. -/
structure HeaderRecord where
  nodeCount : UInt32
  portCount : UInt32
  fromNodeGuid : UInt64
  maxhopsDiscovered : UInt32
  deriving DecidableEq, Repr

/-- What the file has of a node. -/
structure NodeRecord where
  smalid : UInt16
  smalmc : UInt8
  smaenhsp0 : UInt8
  switchinfo : SmpData
  guid : UInt64
  type : UInt8
  numports : UInt8
  info : SmpData
  nodedesc : SmpData
  portCacheKeys : List PortCacheKey
  deriving DecidableEq

/-- What the file has of a port. -/
structure PortRecord where
  guid : UInt64
  portnum : UInt8
  extPortnum : UInt8
  baseLid : UInt16
  lmc : UInt8
  info : SmpData
  nodeGuid : UInt64
  remoteportFlag : UInt8
  remoteportCacheKey : PortCacheKey
  deriving DecidableEq

/-! `_marshallN`, and `_unmarshallN` with the buffer behind the number. -/

def marshall8 (num : UInt8) : Bytes := LittleEndian.toBytes 1 num.toNat
def marshall16 (num : UInt16) : Bytes := LittleEndian.toBytes 2 num.toNat
def marshall32 (num : UInt32) : Bytes := LittleEndian.toBytes 4 num.toNat
def marshall64 (num : UInt64) : Bytes := LittleEndian.toBytes 8 num.toNat

def unmarshall8 (buf : Bytes) : UInt8 × Bytes :=
  (UInt8.ofNat (LittleEndian.ofBytes (buf.take 1)), buf.drop 1)

def unmarshall16 (buf : Bytes) : UInt16 × Bytes :=
  (UInt16.ofNat (LittleEndian.ofBytes (buf.take 2)), buf.drop 2)

def unmarshall32 (buf : Bytes) : UInt32 × Bytes :=
  (UInt32.ofNat (LittleEndian.ofBytes (buf.take 4)), buf.drop 4)

def unmarshall64 (buf : Bytes) : UInt64 × Bytes :=
  (UInt64.ofNat (LittleEndian.ofBytes (buf.take 8)), buf.drop 8)

/-- `_unmarshall_buf` of `IB_SMP_DATA_SIZE` bytes. -/
def unmarshallBuf (buf : Bytes) : SmpData × Bytes :=
  (⟨(List.range ibSmpDataSize).map fun i => byteAt buf i, by simp⟩, buf.drop ibSmpDataSize)

section Numbers
variable (rest : Bytes)

@[simp] theorem unmarshall8_marshall8 (num : UInt8) :
    unmarshall8 (marshall8 num ++ rest) = (num, rest) := by
  unfold unmarshall8 marshall8
  rw [List.take_left' (LittleEndian.length_toBytes 1 _),
    List.drop_left' (LittleEndian.length_toBytes 1 _),
    LittleEndian.ofBytes_toBytes num.toNat_lt, UInt8.ofNat_toNat]

@[simp] theorem unmarshall16_marshall16 (num : UInt16) :
    unmarshall16 (marshall16 num ++ rest) = (num, rest) := by
  unfold unmarshall16 marshall16
  rw [List.take_left' (LittleEndian.length_toBytes 2 _),
    List.drop_left' (LittleEndian.length_toBytes 2 _),
    LittleEndian.ofBytes_toBytes num.toNat_lt, UInt16.ofNat_toNat]

@[simp] theorem unmarshall32_marshall32 (num : UInt32) :
    unmarshall32 (marshall32 num ++ rest) = (num, rest) := by
  unfold unmarshall32 marshall32
  rw [List.take_left' (LittleEndian.length_toBytes 4 _),
    List.drop_left' (LittleEndian.length_toBytes 4 _),
    LittleEndian.ofBytes_toBytes num.toNat_lt, UInt32.ofNat_toNat]

@[simp] theorem unmarshall64_marshall64 (num : UInt64) :
    unmarshall64 (marshall64 num ++ rest) = (num, rest) := by
  unfold unmarshall64 marshall64
  rw [List.take_left' (LittleEndian.length_toBytes 8 _),
    List.drop_left' (LittleEndian.length_toBytes 8 _),
    LittleEndian.ofBytes_toBytes num.toNat_lt, UInt64.ofNat_toNat]

/-- At the end of a buffer. -/
@[simp] theorem unmarshall8_last (num : UInt8) : unmarshall8 (marshall8 num) = (num, []) := by
  rw [← unmarshall8_marshall8 [] num, List.append_nil]

@[simp] theorem unmarshall32_last (num : UInt32) : unmarshall32 (marshall32 num) = (num, []) := by
  rw [← unmarshall32_marshall32 [] num, List.append_nil]

@[simp] theorem unmarshallBuf_append (data : SmpData) :
    unmarshallBuf (data.bytes ++ rest) = (data, rest) := by
  have hbytes : (List.range ibSmpDataSize).map (byteAt (data.bytes ++ rest)) = data.bytes := by
    apply List.ext_getElem
    · rw [List.length_map, List.length_range, data.size]
    · intro i hi hi'
      rw [List.getElem_map, List.getElem_range, byteAt, List.getD_append _ _ _ _ hi',
        List.getD_eq_getElem _ _ hi']
  unfold unmarshallBuf
  rw [List.drop_left' data.size]
  simp only [hbytes]

end Numbers

/-- `ibnd_read` of a file of which `fd` is left: the bytes, and what is left then. -/
def ibndRead (fd : Bytes) (count : Nat) : Option (Bytes × Bytes) :=
  if count ≤ fd.length then some (fd.take count, fd.drop count) else none

theorem ibndRead_append {buf rest : Bytes} {count : Nat} (h : buf.length = count) :
    ibndRead (buf ++ rest) count = some (buf, rest) := by
  unfold ibndRead
  rw [List.take_left' h, List.drop_left' h, List.length_append, if_pos (by omega)]

def HeaderRecord.bytes (r : HeaderRecord) : Bytes :=
  marshall32 ibndFabricCacheMagic ++ marshall32 ibndFabricCacheVersion ++
    marshall32 r.nodeCount ++ marshall32 r.portCount ++ marshall64 r.fromNodeGuid ++
    marshall32 r.maxhopsDiscovered

/-- `_load_header_info`, up to where it stores what it has read. -/
def readHeader (fd : Bytes) : Option (HeaderRecord × Bytes) := do
  let read ← ibndRead fd ibndFabricCacheHeaderLen
  let magic := unmarshall32 read.1
  let version := unmarshall32 magic.2
  let nodeCount := unmarshall32 version.2
  let portCount := unmarshall32 nodeCount.2
  let fromNodeGuid := unmarshall64 portCount.2
  let maxhopsDiscovered := unmarshall32 fromNodeGuid.2
  if magic.1 ≠ ibndFabricCacheMagic then none
  else if version.1 ≠ ibndFabricCacheVersion then none
  else some (⟨nodeCount.1, portCount.1, fromNodeGuid.1, maxhopsDiscovered.1⟩, read.2)

def PortCacheKey.bytes (key : PortCacheKey) : Bytes := marshall64 key.guid ++ marshall8 key.portnum

def unmarshallKeys : Nat → Bytes → List PortCacheKey
  | 0, _ => []
  | count + 1, buf =>
      let guid := unmarshall64 buf
      let portnum := unmarshall8 guid.2
      ⟨guid.1, portnum.1⟩ :: unmarshallKeys count portnum.2

/-- The node without the count of its keys and the keys. -/
def NodeRecord.headerBytes (r : NodeRecord) : Bytes :=
  marshall16 r.smalid ++ marshall8 r.smalmc ++ marshall8 r.smaenhsp0 ++ r.switchinfo.bytes ++
    marshall64 r.guid ++ marshall8 r.type ++ marshall8 r.numports ++ r.info.bytes ++
    r.nodedesc.bytes

/-- The count is a byte. -/
def NodeRecord.bytes (r : NodeRecord) : Bytes :=
  r.headerBytes ++ marshall8 (UInt8.ofNat r.portCacheKeys.length) ++
    r.portCacheKeys.flatMap PortCacheKey.bytes

/-- `_load_node`, up to where it stores what it has read. -/
def readNode (fd : Bytes) : Option (NodeRecord × Bytes) := do
  let read ← ibndRead fd ibndNodeCacheHeaderLen
  let smalid := unmarshall16 read.1
  let smalmc := unmarshall8 smalid.2
  let smaenhsp0 := unmarshall8 smalmc.2
  let switchinfo := unmarshallBuf smaenhsp0.2
  let guid := unmarshall64 switchinfo.2
  let type := unmarshall8 guid.2
  let numports := unmarshall8 type.2
  let info := unmarshallBuf numports.2
  let nodedesc := unmarshallBuf info.2
  let portsStoredCount := (unmarshall8 nodedesc.2).1.toNat
  let keys ← ibndRead read.2 (ibndPortCacheKeyLen * portsStoredCount)
  some (⟨smalid.1, smalmc.1, smaenhsp0.1, switchinfo.1, guid.1, type.1, numports.1, info.1,
    nodedesc.1, unmarshallKeys portsStoredCount keys.1⟩, keys.2)

def PortRecord.bytes (r : PortRecord) : Bytes :=
  marshall64 r.guid ++ marshall8 r.portnum ++ marshall8 r.extPortnum ++ marshall16 r.baseLid ++
    marshall8 r.lmc ++ r.info.bytes ++ marshall64 r.nodeGuid ++ marshall8 r.remoteportFlag ++
    r.remoteportCacheKey.bytes

/-- `_load_port`, up to where it stores what it has read. -/
def readPort (fd : Bytes) : Option (PortRecord × Bytes) := do
  let read ← ibndRead fd ibndPortCacheLen
  let guid := unmarshall64 read.1
  let portnum := unmarshall8 guid.2
  let extPortnum := unmarshall8 portnum.2
  let baseLid := unmarshall16 extPortnum.2
  let lmc := unmarshall8 baseLid.2
  let info := unmarshallBuf lmc.2
  let nodeGuid := unmarshall64 info.2
  let remoteportFlag := unmarshall8 nodeGuid.2
  let remoteGuid := unmarshall64 remoteportFlag.2
  let remotePortnum := unmarshall8 remoteGuid.2
  some (⟨guid.1, portnum.1, extPortnum.1, baseLid.1, lmc.1, info.1, nodeGuid.1, remoteportFlag.1,
    ⟨remoteGuid.1, remotePortnum.1⟩⟩, read.2)

section Records
variable (rest : Bytes)

@[simp] theorem length_marshall8 (num : UInt8) : (marshall8 num).length = 1 :=
  LittleEndian.length_toBytes 1 _

@[simp] theorem length_marshall16 (num : UInt16) : (marshall16 num).length = 2 :=
  LittleEndian.length_toBytes 2 _

@[simp] theorem length_marshall32 (num : UInt32) : (marshall32 num).length = 4 :=
  LittleEndian.length_toBytes 4 _

@[simp] theorem length_marshall64 (num : UInt64) : (marshall64 num).length = 8 :=
  LittleEndian.length_toBytes 8 _

theorem length_keyBytes (keys : List PortCacheKey) :
    (keys.flatMap PortCacheKey.bytes).length = ibndPortCacheKeyLen * keys.length := by
  induction keys with
  | nil => rfl
  | cons key keys ih =>
      rw [List.flatMap_cons, List.length_append, ih, PortCacheKey.bytes, List.length_append,
        length_marshall64, length_marshall8, List.length_cons, ibndPortCacheKeyLen]
      omega

/-- The keys of a list that starts with as many as were counted. -/
theorem unmarshallKeys_bytes (keys : List PortCacheKey) :
    unmarshallKeys keys.length (keys.flatMap PortCacheKey.bytes ++ rest) = keys := by
  induction keys with
  | nil => rfl
  | cons key keys ih =>
      rw [List.flatMap_cons, List.length_cons, unmarshallKeys, PortCacheKey.bytes]
      simp only [List.append_assoc, unmarshall64_marshall64, unmarshall8_marshall8]
      rw [ih]

theorem readHeader_bytes (r : HeaderRecord) : readHeader (r.bytes ++ rest) = some (r, rest) := by
  have hlen : r.bytes.length = ibndFabricCacheHeaderLen := by
    simp only [HeaderRecord.bytes, List.length_append, length_marshall32, length_marshall64]
    rfl
  unfold readHeader
  rw [ibndRead_append hlen, HeaderRecord.bytes]
  simp only [List.append_assoc, Option.bind_eq_bind, Option.bind_some, unmarshall32_marshall32,
    unmarshall64_marshall64, unmarshall32_last, ne_eq, not_true_eq_false, if_false]

/-- The count that the record has of its keys. -/
def NodeRecord.portsStoredCount (r : NodeRecord) : Nat :=
  (UInt8.ofNat r.portCacheKeys.length).toNat

theorem NodeRecord.portsStoredCount_eq_mod (r : NodeRecord) :
    r.portsStoredCount = r.portCacheKeys.length % 256 := UInt8.toNat_ofNat'

/-- `_load_node` takes the keys that the byte counts, and leaves the others in the file. -/
theorem readNode_counted (r : NodeRecord) :
    readNode (r.bytes ++ rest) =
      some ({ r with portCacheKeys := r.portCacheKeys.take r.portsStoredCount },
        (r.portCacheKeys.drop r.portsStoredCount).flatMap PortCacheKey.bytes ++ rest) := by
  have hlen : (r.headerBytes ++ marshall8 (UInt8.ofNat r.portCacheKeys.length)).length =
      ibndNodeCacheHeaderLen := by
    simp only [NodeRecord.headerBytes, List.length_append, length_marshall64, length_marshall8,
      length_marshall16, SmpData.size]
    rfl
  have hcount : (r.portCacheKeys.take r.portsStoredCount).length = r.portsStoredCount := by
    rw [List.length_take, r.portsStoredCount_eq_mod]
    exact Nat.min_eq_left (Nat.mod_le _ _)
  have hsplit : r.portCacheKeys.flatMap PortCacheKey.bytes ++ rest =
      (r.portCacheKeys.take r.portsStoredCount).flatMap PortCacheKey.bytes ++
        ((r.portCacheKeys.drop r.portsStoredCount).flatMap PortCacheKey.bytes ++ rest) := by
    rw [← List.append_assoc, ← List.flatMap_append, List.take_append_drop]
  have hkeys := unmarshallKeys_bytes [] (r.portCacheKeys.take r.portsStoredCount)
  rw [List.append_nil, hcount] at hkeys
  have hread := length_keyBytes (r.portCacheKeys.take r.portsStoredCount)
  rw [hcount, NodeRecord.portsStoredCount] at hread
  unfold readNode
  rw [NodeRecord.bytes, List.append_assoc _ _ rest, ibndRead_append hlen, NodeRecord.headerBytes,
    hsplit]
  simp only [List.append_assoc, Option.bind_eq_bind, Option.bind_some, unmarshall16_marshall16,
    unmarshall8_marshall8, unmarshall64_marshall64, unmarshallBuf_append, unmarshall8_last,
    NodeRecord.portsStoredCount] at hkeys ⊢
  rw [ibndRead_append hread, Option.bind_some, hkeys]

theorem readNode_bytes (r : NodeRecord) (hcount : r.portCacheKeys.length < 256) :
    readNode (r.bytes ++ rest) = some (r, rest) := by
  have hread := readNode_counted rest r
  rw [r.portsStoredCount_eq_mod, Nat.mod_eq_of_lt hcount, List.take_length,
    List.drop_length] at hread
  exact hread

theorem readPort_bytes (r : PortRecord) : readPort (r.bytes ++ rest) = some (r, rest) := by
  have hlen : r.bytes.length = ibndPortCacheLen := by
    simp only [PortRecord.bytes, PortCacheKey.bytes, List.length_append, length_marshall64,
      length_marshall8, length_marshall16, SmpData.size]
    rfl
  unfold readPort
  rw [ibndRead_append hlen, PortRecord.bytes, PortCacheKey.bytes]
  simp only [List.append_assoc, Option.bind_eq_bind, Option.bind_some, unmarshall16_marshall16,
    unmarshall8_marshall8, unmarshall64_marshall64, unmarshallBuf_append, unmarshall8_last]

end Records

end InfinibandDiags
