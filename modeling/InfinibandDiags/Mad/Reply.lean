import InfinibandDiags.Mad.Packet

/-! How a responder fills in the MADs that the scan asks for. -/
namespace InfinibandDiags

/-- A response without error status that carries an attribute. -/
def responseMad (trid : UInt64) (attrMod : Nat) (data : Bytes) : Bytes :=
  let mad := madSetField64 (List.replicate ibMadSize 0) 0 .madTrid trid
  copyInto (madSetField mad 0 .madAttrmod attrMod) ibSmpDataOffs data

def nodeInfoData (guid portGuid : UInt64) (type nports localPort : Nat) : Bytes :=
  let data := madSetField (List.replicate ibSmpDataSize 0) 0 .nodeType type
  let data := madSetField data 0 .nodeNports nports
  let data := madSetField64 data 0 .nodeGuid guid
  let data := madSetField64 data 0 .nodePortGuid portGuid
  madSetField data 0 .nodeLocalPort localPort

def portInfoData (localPort physState lid : Nat) : Bytes :=
  let data := madSetField (List.replicate ibSmpDataSize 0) 0 .portLid lid
  let data := madSetField data 0 .portLocalPort localPort
  madSetField data 0 .portPhysState physState

end InfinibandDiags
