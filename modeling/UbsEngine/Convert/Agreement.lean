import Mathlib.Algebra.Order.BigOperators.Group.List
import Mathlib.Algebra.Order.Group.Nat
import UbsEngine.Convert.Sdk

/-!
# When the client reads what the server packs

The server (`UbsEngine.Convert.Response`) and the client (`UbsEngine.Convert.Sdk`) agree on the
order and the widths of the fields, and almost on the limits. The client's are the tighter ones:
a host name of 64 bytes is packed in full and then refused, and of the blocks and the importers
of shared memory, and of the entries of lists, the server packs as many as there are.

So a response that the server packs is read back, from a buffer of just its size, if and only
if it keeps to the limits of the client (`UbsEngine.Convert.response_agrees_iff`).
-/

namespace UbsEngine

namespace Convert

open Packed Sdk

/-! ### The same values for the client -/

def UbseMemStage.view : UbseMemStage → ubs_mem_stage
  | UBSE_NOT_EXIST => .UBSE_NOT_EXIST
  | UBSE_CREATING => .UBSE_CREATING
  | UBSE_DELETING => .UBSE_DELETING
  | UBSE_EXIST => .UBSE_EXIST
  | UBSE_ERR_ONLY_IMPORT => .UBSE_ERR_ONLY_IMPORT
  | UBSE_ERR_WAIT_UNEXPORT => .UBSE_ERR_WAIT_UNEXPORT
  | UBSE_ERR_ABNORMAL => .UBSE_ERR_ABNORMAL

def UbseMemFdDesc.view (desc : UbseMemFdDesc) : ubs_mem_fd_desc_t where
  name := desc.name
  memids := desc.memIds
  mem_size := desc.totalMemSize
  unit_size := desc.unitSize
  export_node := desc.exportNode.toBaseNode
  import_node := desc.importNode.toBaseNode
  mem_stage := desc.state.view

def UbseMemNumaDesc.view (desc : UbseMemNumaDesc) : ubs_mem_numa_desc_t where
  name := desc.name
  numaid := desc.numaId
  export_node := desc.exportNode.toBaseNode
  import_node := desc.importNode.toBaseNode
  size := desc.size
  mem_stage := desc.state.view
  usrInfo := desc.usrInfo

def UbseMemShmImportDesc.view (desc : UbseMemShmImportDesc) : ubs_mem_shm_import_desc_t where
  memids := desc.memIds
  import_node := desc.importNode.toBaseNode
  mem_stage := desc.state.view

def UbseMemShmDesc.view (desc : UbseMemShmDesc) : ubs_mem_shm_desc_t where
  name := desc.name
  mem_size := desc.totalMemSize
  unit_size := desc.unitSize
  export_node := desc.exportNode.toBaseNode
  usr_info := desc.userInfo
  mem_stage := desc.state.view
  import_desc := desc.importDesc.map UbseMemShmImportDesc.view

def UbseNode.view (superPodId : UInt16) (node : UbseNode) : ubs_topo_node_t :=
  { node with super_pod_id := superPodId }

/-- What a client gets as the answer to its query. -/
inductive Seen where
  | fd (desc : ubs_mem_fd_desc_t)
  | fdList (descs : List ubs_mem_fd_desc_t)
  | numa (desc : ubs_mem_numa_desc_t)
  | numaList (descs : List ubs_mem_numa_desc_t)
  | shm (desc : ubs_mem_shm_desc_t)
  | shmList (descs : List ubs_mem_shm_desc_t)
  | node (n : ubs_topo_node_t)
  | nodeList (nodes : List ubs_topo_node_t)
  deriving DecidableEq

namespace Response

/-- What the client is to see. -/
def seen : Response → Seen
  | fd desc => .fd desc.view
  | fdList descs => .fdList (descs.map UbseMemFdDesc.view)
  | numa desc => .numa desc.view
  | numaList descs => .numaList (descs.map UbseMemNumaDesc.view)
  | shm desc => .shm desc.view
  | shmList descs => .shmList (descs.map UbseMemShmDesc.view)
  | .node n superPodId => .node (n.view superPodId)
  | .nodeList nodes superPodId => .nodeList (nodes.map (UbseNode.view superPodId))

/-- How a client that asked for such a response reads it. -/
def unpack : Response → Unpack Seen
  | fd _ => do
    let desc ← ubse_mem_fd_desc_unpack_inner
    pure (.fd desc)
  | fdList _ => do
    let descs ← unpackList UBS_MEM_MAX_DESC_LIST ubse_mem_fd_desc_unpack_inner
    pure (.fdList descs)
  | numa _ => do
    let desc ← ubse_mem_numa_desc_unpack_inner
    pure (.numa desc)
  | numaList _ => do
    let descs ← unpackList UBS_MEM_MAX_DESC_LIST ubse_mem_numa_desc_unpack_inner
    pure (.numaList descs)
  | shm _ => do
    let desc ← ubse_mem_shm_get_resp_unpack
    pure (.shm desc)
  | shmList _ => do
    let descs ← ubse_mem_shm_list_resp_unpack
    pure (.shmList descs)
  | .node _ _ => do
    let n ← ubse_node_unpack
    pure (.node n)
  | .nodeList _ _ => do
    let nodes ← ubse_node_list_unpack
    pure (.nodeList nodes)

/-- The size computed for the buffer is the number of bytes packed, and the client reads the
values off what is sent. -/
def Agrees (r : Response) (m : UbseIpcMessage) : Prop :=
  r.requiredLength = m.buffer.length ∧
    r.unpack.read (m.buffer.take m.length) = .ok r.seen

/-- The response keeps to the limits of the client: on names and host names, on the blocks of
memory and the importers of a descriptor, on the entries of a list, and on the size of a list of
shared memory, which has to fit 32 bits. -/
def Within : Response → Prop
  | fd desc => FdWithin desc.view
  | fdList descs =>
    descs.length ≤ UBS_MEM_MAX_DESC_LIST ∧ ∀ desc ∈ descs, FdWithin desc.view
  | numa desc => NumaWithin desc.view
  | numaList descs =>
    descs.length ≤ UBS_MEM_MAX_DESC_LIST ∧ ∀ desc ∈ descs, NumaWithin desc.view
  | shm desc => ShmWithin desc.view
  | shmList descs =>
    (descs.length ≤ UBS_MEM_MAX_DESC_LIST ∧ ∀ desc ∈ descs, ShmWithin desc.view) ∧
      4 + descs.length * 4 + (descs.map UbseMemShmDescCalcSize).sum < 2 ^ 32
  | .node n _ => NodeWithin n.toBaseNode
  | .nodeList nodes _ =>
    nodes.length ≤ UBS_TOPO_MAX_NODE_NUM ∧ ∀ n ∈ nodes, NodeWithin n.toBaseNode

/-- The bytes of a response. -/
def bytes : Response → List UInt8
  | fd desc => fdBytes desc.view
  | fdList descs =>
    wordBytes (UInt32.ofNat descs.length) ++ descs.flatMap fun desc => fdBytes desc.view
  | numa desc => numaBytes desc.view
  | numaList descs =>
    wordBytes (UInt32.ofNat descs.length) ++ descs.flatMap fun desc => numaBytes desc.view
  | shm desc => shmBytes desc.view
  | shmList descs =>
    wordBytes (UInt32.ofNat descs.length) ++
      ((descs.flatMap fun desc => importCntBytes desc.view) ++
        descs.flatMap fun desc => shmBytes desc.view)
  | .node n superPodId => topoBytes n ++ wordBytes superPodId
  | .nodeList nodes superPodId =>
    wordBytes (UInt32.ofNat nodes.length) ++ (nodes.flatMap topoBytes ++ wordBytes superPodId)

end Response

/-! ### The client reads the bytes -/

theorem toNat_ofNat {n : Nat} (h : n < 2 ^ 32) : (UInt32.ofNat n).toNat = n :=
  UInt32.toNat_ofNat_of_lt' h

theorem reads_word {α : Type} [Word α] (x : α) : Reads (unpackWord α) (wordBytes x) x :=
  reads_getWord _ x

theorem reads_words {α : Type} [Word α] {n : Nat} (v : List.Vector α n) :
    Reads (times (unpackWord α) n) (vectorBytes wordBytes v) v :=
  reads_times_vector v fun a _ => reads_word a

theorem reads_string {max_len : Nat} {str : Text} (h : str.length ≤ max_len)
    (hmax : max_len < 2 ^ 32) : Reads (unpack_string max_len) (stringBytes str) str := by
  have hlen := toNat_ofNat (Nat.lt_of_le_of_lt h hmax)
  refine (reads_word _).bind ?_
  refine (reads_check _ (by rw [hlen]; exact h)).bind (reads_take _ hlen.symm)

theorem reads_memids {memids : List UInt64} (h : memids.length ≤ UBS_MEM_MAX_MEMID_NUM) :
    Reads unpackMemids (memidsBytes memids) memids := by
  have hlen := toNat_ofNat (Nat.lt_of_le_of_lt h (by decide))
  refine (reads_word _).bind ?_
  refine (reads_check _ (by rw [hlen]; exact h)).bind ?_
  exact reads_timesList memids hlen.symm fun x _ => reads_word x

theorem reads_node {node : BaseNode} (h : NodeWithin node) :
    Reads ubse_base_node_unpack_inner (nodeBytes node) node := by
  refine (reads_word _).bind ((reads_words _).bind ?_)
  refine (reads_times_vector _ fun v _ => reads_words v).bind ?_
  exact (reads_string (Nat.le_pred_of_lt h.hostName) (by decide)).map _

theorem reads_ip (ip : ubs_topo_ip_address_t) : Reads unpackIp (ipBytes ip) ip :=
  (reads_word _).bind ((reads_word _).bind ((reads_word _).bind ((reads_word _).map _)))

theorem reads_topo {node : UbseNode} (h : NodeWithin node.toBaseNode) :
    Reads ubse_node_unpack_inner (topoBytes node) node :=
  (reads_node h).bind ((reads_times_vector _ fun ip _ => reads_ip ip).map _)

theorem reads_stage (stage : ubs_mem_stage) : Reads unpackStage (stageBytes stage) stage := by
  have h := (reads_word stage.value).map uint32_to_ubs_mem_stage
  have hstage : uint32_to_ubs_mem_stage stage.value = stage := by cases stage <;> rfl
  rwa [hstage] at h

theorem reads_fd {desc : ubs_mem_fd_desc_t} (h : FdWithin desc) :
    Reads ubse_mem_fd_desc_unpack_inner (fdBytes desc) desc := by
  refine (reads_string (Nat.le_pred_of_lt h.name) (by decide)).bind ?_
  refine (reads_memids h.memids).bind ((reads_word _).bind ((reads_word _).bind ?_))
  refine (reads_node h.export_node).bind ((reads_node h.import_node).bind ?_)
  exact (reads_stage _).map _

theorem reads_numa {desc : ubs_mem_numa_desc_t} (h : NumaWithin desc) :
    Reads ubse_mem_numa_desc_unpack_inner (numaBytes desc) desc := by
  refine (reads_string (Nat.le_pred_of_lt h.name) (by decide)).bind ((reads_word _).bind ?_)
  refine (reads_node h.export_node).bind ((reads_node h.import_node).bind ?_)
  exact (reads_word _).bind ((reads_stage _).bind ((reads_words _).map _))

theorem reads_shmImport {desc : ubs_mem_shm_import_desc_t} (h : ShmImportWithin desc) :
    Reads ubse_mem_shm_import_desc_unpack (shmImportBytes desc) desc :=
  (reads_memids h.memids).bind ((reads_node h.import_node).bind ((reads_stage _).map _))

theorem reads_shm {desc : ubs_mem_shm_desc_t} (h : ShmWithin desc) {import_desc : Bool}
    (hroom : desc.import_desc.length = 0 ∨ import_desc = true) :
    Reads (ubse_mem_shm_desc_unpack import_desc) (shmBytes desc) desc := by
  have hlen := toNat_ofNat (Nat.lt_of_le_of_lt h.import_desc (by decide))
  refine (reads_word _).bind ?_
  refine (reads_check _ (by rw [hlen]; exact h.import_desc)).bind ?_
  refine (reads_string (Nat.le_pred_of_lt h.name) (by decide)).bind ?_
  refine (reads_word _).bind ((reads_word _).bind ((reads_node h.export_node).bind ?_))
  refine (reads_words _).bind ((reads_stage _).bind ?_)
  refine (reads_check _ (by rw [hlen]; exact hroom)).bind ?_
  exact (reads_timesList _ hlen.symm fun d hd => reads_shmImport (h.importers d hd)).map _

theorem reads_shmResponse {desc : ubs_mem_shm_desc_t} (h : ShmWithin desc) :
    Reads ubse_mem_shm_get_resp_unpack (shmBytes desc) desc := by
  have hlen := toNat_ofNat (Nat.lt_of_le_of_lt h.import_desc (by decide))
  intro rest
  have halloc : ubse_mem_shm_desc_alloc (shmBytes desc ++ rest) =
      .ok (decide (desc.import_desc.length ≠ 0), shmBytes desc ++ rest) := by
    rw [ubse_mem_shm_desc_alloc, shmBytes, importCntBytes, List.append_assoc, reads_word]
    dsimp only
    rw [hlen, if_neg (Nat.not_lt.2 h.import_desc)]
  refine bind_eq_ok.2 ⟨_, _, halloc, reads_shm h ?_ rest⟩
  rw [decide_eq_true_iff]
  exact Decidable.em _

/-- The descriptors of a list, with room for importers where there are some. -/
theorem reads_shmData (descs : List ubs_mem_shm_desc_t) (h : ∀ desc ∈ descs, ShmWithin desc) :
    Reads (ubse_mem_shm_list_unpack_data
        (descs.map fun desc => UInt32.ofNat desc.import_desc.length))
      (descs.flatMap shmBytes) descs := by
  induction descs with
  | nil => exact reads_pure _
  | cons desc descs ih =>
    have hdesc := h desc List.mem_cons_self
    have hlen := toNat_ofNat (Nat.lt_of_le_of_lt hdesc.import_desc (by decide))
    rw [List.map_cons, List.flatMap_cons]
    refine (reads_shm hdesc ?_).bind ((ih fun d hd => h d (List.mem_cons_of_mem desc hd)).map _)
    rw [hlen, decide_eq_true_iff]
    exact Decidable.em _

theorem reads_importCnt {cnt : UInt32} (h : cnt.toNat ≤ UBS_TOPO_MAX_NODE_NUM) :
    Reads unpackImportCnt (wordBytes cnt) cnt := by
  rw [← List.append_nil (wordBytes cnt)]
  exact (reads_word cnt).bind ((reads_check _ h).map _)

theorem reads_shmList {descs : List ubs_mem_shm_desc_t}
    (hlength : descs.length ≤ UBS_MEM_MAX_DESC_LIST) (h : ∀ desc ∈ descs, ShmWithin desc) :
    Reads ubse_mem_shm_list_resp_unpack
      (wordBytes (UInt32.ofNat descs.length) ++
        (descs.flatMap importCntBytes ++ descs.flatMap shmBytes)) descs := by
  have hlen := toNat_ofNat (Nat.lt_of_le_of_lt hlength (by decide))
  refine (reads_word _).bind ?_
  refine (reads_check _ (by rw [hlen]; exact hlength)).bind ?_
  refine Reads.bind ?_ (reads_shmData descs h)
  have hcounts : descs.flatMap importCntBytes =
      (descs.map fun desc => UInt32.ofNat desc.import_desc.length).flatMap wordBytes := by
    rw [List.flatMap_map]
    rfl
  rw [hcounts]
  refine reads_timesList _ (by rw [List.length_map, hlen]) fun count hcount => ?_
  obtain ⟨desc, hdesc, rfl⟩ := List.mem_map.1 hcount
  have hle := (h desc hdesc).import_desc
  have hcnt := toNat_ofNat (Nat.lt_of_le_of_lt hle (by decide))
  exact reads_importCnt (by rw [hcnt]; exact hle)

theorem reads_list {α : Type} {max : Nat} {p : Unpack α} {f : α → List UInt8} {l : List α}
    (hlength : l.length ≤ max) (hmax : max < 2 ^ 32) (h : ∀ a ∈ l, Reads p (f a) a) :
    Reads (unpackList max p) (wordBytes (UInt32.ofNat l.length) ++ l.flatMap f) l := by
  have hlen := toNat_ofNat (Nat.lt_of_le_of_lt hlength hmax)
  refine (reads_word _).bind ?_
  exact (reads_check _ (by rw [hlen]; exact hlength)).bind (reads_timesList l hlen.symm h)

theorem reads_superPodId (superPodId : UInt16) :
    Reads unpackSuperPodId (wordBytes superPodId) superPodId := by
  intro rest
  rw [unpackSuperPodId, reads_word]

/-- The client does not look for the super node if there are no nodes. -/
theorem read_nodeList {nodes : List UbseNode} (superPodId : UInt16)
    (hlength : nodes.length ≤ UBS_TOPO_MAX_NODE_NUM)
    (h : ∀ node ∈ nodes, NodeWithin node.toBaseNode) :
    ubse_node_list_unpack.read
        (wordBytes (UInt32.ofNat nodes.length) ++ (nodes.flatMap topoBytes ++ wordBytes superPodId)) =
      .ok (nodes.map (UbseNode.view superPodId)) := by
  have hlist := reads_list hlength (by decide) fun node hnode => reads_topo (h node hnode)
  rw [← List.append_assoc]
  refine read_eq_ok.2 ?_
  cases nodes with
  | nil => exact ⟨_, bind_eq_ok.2 ⟨_, _, hlist _, rfl⟩⟩
  | cons node nodes =>
    refine ⟨[], bind_eq_ok.2 ⟨_, _, hlist _, bind_eq_ok.2 ⟨superPodId, [], ?_, rfl⟩⟩⟩
    have hid := reads_superPodId superPodId []
    rwa [List.append_nil] at hid

namespace Response

/-- The client reads back a response within its limits. -/
theorem read_bytes {r : Response} (h : r.Within) : r.unpack.read r.bytes = .ok r.seen := by
  cases r with
  | fd desc => exact ((reads_fd h).map Seen.fd).read
  | fdList descs =>
    obtain ⟨hlength, h⟩ := h
    have hlength' : (descs.map UbseMemFdDesc.view).length ≤ UBS_MEM_MAX_DESC_LIST := by
      rwa [List.length_map]
    have hreads : ∀ desc ∈ descs.map UbseMemFdDesc.view,
        Reads ubse_mem_fd_desc_unpack_inner (fdBytes desc) desc := by
      rintro _ hdesc
      obtain ⟨desc, hmem, rfl⟩ := List.mem_map.1 hdesc
      exact reads_fd (h desc hmem)
    have hlist := reads_list hlength' (by decide) hreads
    rw [List.length_map, List.flatMap_map] at hlist
    exact (hlist.map Seen.fdList).read
  | numa desc => exact ((reads_numa h).map Seen.numa).read
  | numaList descs =>
    obtain ⟨hlength, h⟩ := h
    have hlength' : (descs.map UbseMemNumaDesc.view).length ≤ UBS_MEM_MAX_DESC_LIST := by
      rwa [List.length_map]
    have hreads : ∀ desc ∈ descs.map UbseMemNumaDesc.view,
        Reads ubse_mem_numa_desc_unpack_inner (numaBytes desc) desc := by
      rintro _ hdesc
      obtain ⟨desc, hmem, rfl⟩ := List.mem_map.1 hdesc
      exact reads_numa (h desc hmem)
    have hlist := reads_list hlength' (by decide) hreads
    rw [List.length_map, List.flatMap_map] at hlist
    exact (hlist.map Seen.numaList).read
  | shm desc => exact ((reads_shmResponse h).map Seen.shm).read
  | shmList descs =>
    obtain ⟨⟨hlength, h⟩, -⟩ := h
    have hviews : ∀ desc ∈ descs.map UbseMemShmDesc.view, ShmWithin desc := by
      rintro _ hdesc
      obtain ⟨desc, hmem, rfl⟩ := List.mem_map.1 hdesc
      exact h desc hmem
    have hlist := reads_shmList (by rwa [List.length_map]) hviews
    rw [List.length_map, List.flatMap_map, List.flatMap_map] at hlist
    exact (hlist.map Seen.shmList).read
  | node n superPodId =>
    exact (((reads_topo h).bind ((reads_superPodId superPodId).map _)).map Seen.node).read
  | nodeList nodes superPodId =>
    obtain ⟨rest, hread⟩ := read_eq_ok.1 (read_nodeList superPodId h.1 h.2)
    exact read_eq_ok.2 ⟨rest, bind_eq_ok.2 ⟨_, rest, hread, rfl⟩⟩

end Response

/-! ### The server packs the bytes -/

theorem writes_word {α : Type} [Word α] (x : α) : Writes (packWord x) (wordBytes x) :=
  writes_put _

theorem writes_words {α : Type} [Word α] (l : List α) :
    Writes (putAll packWord l) (l.flatMap wordBytes) :=
  writes_putAll l fun x _ => writes_word x

theorem writes_string {str : Text} {maxLen : Nat} (h : str.length ≤ maxLen)
    (hmax : maxLen < 2 ^ 32) : Writes (UbsePackString str maxLen) (stringBytes str) := by
  have hlen : packedLen str maxLen = str.length := by
    rw [packedLen, Nat.mod_eq_of_lt (Nat.lt_of_le_of_lt h hmax), Nat.min_eq_left h]
  rw [UbsePackString, hlen, List.take_length]
  exact writes_putOrElse _ _

theorem writes_node {node : UbseNode} (h : NodeWithin node.toBaseNode) :
    Writes (UbseBaseNodePackInner node) (nodeBytes node.toBaseNode) := by
  refine (writes_word _).bind ((writes_words _).bind ?_)
  refine (writes_putAll _ fun socket _ => writes_words socket.toList).bind ?_
  exact writes_string (Nat.le_of_lt h.hostName) (by decide)

theorem writes_ip (ip : ubs_topo_ip_address_t) : Writes (packIp ip) (ipBytes ip) :=
  (writes_word _).bind ((writes_word _).bind ((writes_word _).bind (writes_word _)))

theorem writes_topo {node : UbseNode} (h : NodeWithin node.toBaseNode) :
    Writes (UbseNodePackInner node) (topoBytes node) :=
  (writes_node h).bind (writes_putAll _ fun ip _ => writes_ip ip)

theorem writes_stage (stage : UbseMemStage) :
    Writes (packWord stage.value) (stageBytes stage.view) := by
  have hvalue : stage.view.value = stage.value := by cases stage <;> rfl
  rw [stageBytes, hvalue]
  exact writes_word _

theorem writes_fd {desc : UbseMemFdDesc} (h : FdWithin desc.view) :
    Writes (UbseMemFdDescPackInner desc) (fdBytes desc.view) := by
  have hmemids : ¬UBS_MEM_MAX_MEMID_NUM < desc.memIds.length := Nat.not_lt.2 h.memids
  rw [UbseMemFdDescPackInner, if_neg hmemids, fdBytes, memidsBytes,
    List.append_assoc]
  refine (writes_string (Nat.le_pred_of_lt h.name) (by decide)).bind ?_
  refine (writes_word _).bind ((writes_words _).bind ?_)
  refine (writes_word _).bind ((writes_word _).bind ?_)
  exact (writes_node h.export_node).bind ((writes_node h.import_node).bind (writes_stage _))

theorem writes_numa {desc : UbseMemNumaDesc} (h : NumaWithin desc.view) :
    Writes (UbseMemNumaDescPackInner desc) (numaBytes desc.view) := by
  refine (writes_string (Nat.le_pred_of_lt h.name) (by decide)).bind ((writes_word _).bind ?_)
  refine (writes_node h.export_node).bind ((writes_node h.import_node).bind ?_)
  exact (writes_word _).bind ((writes_stage _).bind (writes_words _))

theorem writes_shmImport {desc : UbseMemShmImportDesc} (h : ShmImportWithin desc.view) :
    Writes (UbseMemShmImportDescPackInner desc) (shmImportBytes desc.view) := by
  rw [shmImportBytes, memidsBytes, List.append_assoc]
  refine (writes_word _).bind ((writes_words _).bind ?_)
  exact (writes_node h.import_node).bind (writes_stage _)

theorem writes_importCnt (desc : UbseMemShmDesc) :
    Writes (packSize desc.importDesc) (importCntBytes desc.view) := by
  have hlen : desc.view.import_desc.length = desc.importDesc.length := List.length_map _
  rw [importCntBytes, hlen]
  exact writes_word _

theorem writes_shm {desc : UbseMemShmDesc} (h : ShmWithin desc.view) :
    Writes (UbseMemShmDescPackInner desc) (shmBytes desc.view) := by
  refine (writes_importCnt desc).bind ?_
  refine (writes_string (Nat.le_pred_of_lt h.name) (by decide)).bind ?_
  refine (writes_word _).bind ((writes_word _).bind ((writes_node h.export_node).bind ?_))
  refine (writes_putAll _ fun x _ => writes_putOrElse _ _).bind ((writes_stage _).bind ?_)
  have himports : desc.view.import_desc.flatMap shmImportBytes =
      desc.importDesc.flatMap fun d => shmImportBytes d.view := List.flatMap_map _ _ _
  rw [himports]
  exact writes_putAll _ fun d hd => writes_shmImport (h.importers _ (List.mem_map_of_mem hd))

namespace Response

/-- The server packs just the bytes of a response within the limits of the client. -/
theorem writes_bytes {r : Response} (h : r.Within) : Writes r.packInner r.bytes := by
  cases r with
  | fd desc => exact writes_fd h
  | fdList descs =>
    exact (writes_word _).bind (writes_putAll _ fun desc hdesc => writes_fd (h.2 desc hdesc))
  | numa desc => exact writes_numa h
  | numaList descs =>
    exact (writes_word _).bind (writes_putAll _ fun desc hdesc => writes_numa (h.2 desc hdesc))
  | shm desc => exact writes_shm h
  | shmList descs =>
    refine (writes_word _).bind ((writes_putAll _ fun desc _ => writes_importCnt desc).bind ?_)
    exact writes_putAll _ fun desc hdesc => writes_shm (h.1.2 desc hdesc)
  | node n superPodId => exact (writes_topo h).bind (writes_word _)
  | nodeList nodes superPodId =>
    refine (writes_word _).bind (Writes.bind ?_ (writes_word _))
    exact writes_putAll _ fun n hn => writes_topo (h.2 n hn)

end Response

/-! ### The size is right -/

theorem size_uint32 : Word.size UInt32 = 4 := rfl

theorem size_uint64 : Word.size UInt64 = 8 := rfl

theorem length_words {α : Type} [Word α] {n : Nat} (v : List.Vector α n) :
    (vectorBytes wordBytes v).length = n * Word.size α :=
  length_vectorBytes v fun _ _ => length_wordBytes _

theorem length_stringBytes {str : Text} {maxLen : Nat} (h : str.length ≤ maxLen) :
    (stringBytes str).length = UbseStringCalcSize str maxLen := by
  rw [stringBytes, List.length_append, length_wordBytes, UbseStringCalcSize, Nat.min_eq_left h,
    size_uint32]

theorem length_memidsBytes (memids : List UInt64) :
    (memidsBytes memids).length = 4 + 8 * memids.length := by
  rw [memidsBytes, List.length_append, length_wordBytes,
    length_flatMap_const memids fun _ _ => length_wordBytes _, size_uint32, size_uint64,
    Nat.mul_comm]

theorem length_nodeBytes {node : UbseNode} (h : NodeWithin node.toBaseNode) :
    (nodeBytes node.toBaseNode).length = UbseMemNodeCalcSize node := by
  have hnumas : (vectorBytes (vectorBytes wordBytes) node.numaIds).length =
      UBS_TOPO_SOCKET_NUM * (UBS_TOPO_NUMA_NUM * Word.size UInt32) :=
    length_vectorBytes _ fun v _ => length_words v
  rw [nodeBytes, List.length_append, List.length_append, List.length_append, length_wordBytes,
    length_words, hnumas, length_stringBytes (Nat.le_of_lt h.hostName), UbseMemNodeCalcSize,
    size_uint32, UBS_TOPO_SOCKET_NUM, UBS_TOPO_NUMA_NUM]
  omega

theorem length_topoBytes {node : UbseNode} (h : NodeWithin node.toBaseNode) :
    (topoBytes node).length = UbseNodeCalcSize node := by
  have hips : (vectorBytes ipBytes node.ips).length = UBS_TOPO_IPADDR_NUM * 24 :=
    length_vectorBytes _ fun ip _ => by
      simp only [ipBytes, List.length_append, length_wordBytes]
      rfl
  rw [topoBytes, List.length_append, length_nodeBytes h, hips, UbseMemNodeCalcSize,
    UbseNodeCalcSize]
  omega

theorem length_stageBytes (stage : ubs_mem_stage) : (stageBytes stage).length = 4 :=
  length_wordBytes _

theorem length_fdBytes {desc : UbseMemFdDesc} (h : FdWithin desc.view) :
    (fdBytes desc.view).length = UbseMemFdDescCalcSize desc := by
  have hname : (stringBytes desc.view.name).length = UbseStringCalcSize desc.name maxNameLen :=
    length_stringBytes (Nat.le_pred_of_lt h.name)
  have hmemids : (memidsBytes desc.view.memids).length = 4 + 8 * desc.memIds.length :=
    length_memidsBytes _
  have hexport : (nodeBytes desc.view.export_node).length = UbseMemNodeCalcSize desc.exportNode :=
    length_nodeBytes h.export_node
  have himport : (nodeBytes desc.view.import_node).length = UbseMemNodeCalcSize desc.importNode :=
    length_nodeBytes h.import_node
  simp only [fdBytes, List.length_append, length_wordBytes, length_stageBytes, hname, hmemids,
    hexport, himport, UbseMemFdDescCalcSize, size_uint64]
  omega

theorem length_numaBytes {desc : UbseMemNumaDesc} (h : NumaWithin desc.view) :
    (numaBytes desc.view).length = UbseMemNumaDescCalcSize desc := by
  have hname : (stringBytes desc.view.name).length = UbseStringCalcSize desc.name maxNameLen :=
    length_stringBytes (Nat.le_pred_of_lt h.name)
  have hint : Word.size Int64 = 8 := rfl
  have hbyte : Word.size UInt8 = 1 := rfl
  have hexport : (nodeBytes desc.view.export_node).length = UbseMemNodeCalcSize desc.exportNode :=
    length_nodeBytes h.export_node
  have himport : (nodeBytes desc.view.import_node).length = UbseMemNodeCalcSize desc.importNode :=
    length_nodeBytes h.import_node
  simp only [numaBytes, List.length_append, length_wordBytes, length_stageBytes, length_words,
    hname, hexport, himport, UbseMemNumaDescCalcSize, size_uint64, hint, hbyte]
  omega

theorem length_shmImportBytes {desc : UbseMemShmImportDesc} (h : ShmImportWithin desc.view) :
    (shmImportBytes desc.view).length = UbseMemShmImportDescCalSize desc := by
  have hmemids : (memidsBytes desc.view.memids).length = 4 + 8 * desc.memIds.length :=
    length_memidsBytes _
  have himport : (nodeBytes desc.view.import_node).length = UbseMemNodeCalcSize desc.importNode :=
    length_nodeBytes h.import_node
  simp only [shmImportBytes, List.length_append, length_stageBytes, hmemids, himport,
    UbseMemShmImportDescCalSize]
  omega

/-- A running total. -/
theorem foldl_add_eq {α : Type} (size : α → Nat) (l : List α) (len : Nat) :
    l.foldl (fun len a => len + size a) len = len + (l.map size).sum := by
  induction l generalizing len with
  | nil => rfl
  | cons a l ih => rw [List.foldl_cons, ih, List.map_cons, List.sum_cons, Nat.add_assoc]

theorem length_shmBytes {desc : UbseMemShmDesc} (h : ShmWithin desc.view) :
    (shmBytes desc.view).length = UbseMemShmDescCalcSize desc := by
  have hname : (stringBytes desc.view.name).length = UbseStringCalcSize desc.name maxNameLen :=
    length_stringBytes (Nat.le_pred_of_lt h.name)
  have hbyte : Word.size UInt8 = 1 := rfl
  have himports : (desc.view.import_desc.flatMap shmImportBytes).length =
      UbseMemShmImportDescListCalSize desc.importDesc := by
    rw [UbseMemShmImportDescListCalSize, foldl_add_eq, Nat.zero_add, List.length_flatMap]
    refine congrArg List.sum ((List.map_map ..).trans (List.map_congr_left fun d hd => ?_))
    exact length_shmImportBytes (h.importers _ (List.mem_map_of_mem hd))
  have hexport : (nodeBytes desc.view.export_node).length = UbseMemNodeCalcSize desc.exportNode :=
    length_nodeBytes h.export_node
  simp only [shmBytes, importCntBytes, List.length_append, length_wordBytes, length_stageBytes,
    length_words, hname, himports, hexport, UbseMemShmDescCalcSize, size_uint32, size_uint64,
    hbyte]
  omega

/-- Sums in 32 bits. -/
theorem sumSizes_eq {α : Type} (size : α → Nat) (l : List α) (len : Nat) :
    sumSizes size l len = (len + (l.map size).sum) % 2 ^ 32 := by
  rw [sumSizes]
  induction l generalizing len with
  | nil => rfl
  | cons a l ih =>
    rw [List.foldl_cons, Nat.mod_add_mod, ih, List.map_cons, List.sum_cons, Nat.add_assoc]

/-- Some things of a bounded size. -/
theorem sum_sizes_le {α : Type} {size : α → Nat} {c : Nat} (l : List α)
    (h : ∀ a ∈ l, size a ≤ c) : (l.map size).sum ≤ l.length * c := by
  have hle := List.sum_le_card_nsmul (l.map size) c fun x hx => by
    obtain ⟨a, ha, rfl⟩ := List.mem_map.1 hx
    exact h a ha
  rw [List.length_map] at hle
  exact hle

theorem stringCalcSize_le (str : Text) (maxLen : Nat) :
    UbseStringCalcSize str maxLen ≤ 4 + maxLen :=
  Nat.add_le_add_left (Nat.min_le_right _ _) 4

theorem nodeCalcSize_le (node : UbseNode) : UbseNodeCalcSize node ≤ 1312 := by
  have h := stringCalcSize_le node.hostName HOST_NAME_MAX
  rw [HOST_NAME_MAX] at h
  rw [UbseNodeCalcSize, UBS_TOPO_SOCKET_NUM, UBS_TOPO_NUMA_NUM, UBS_TOPO_IPADDR_NUM,
    HOST_NAME_MAX]
  omega

theorem memNodeCalcSize_le (node : UbseNode) : UbseMemNodeCalcSize node ≤ 112 := by
  have h := stringCalcSize_le node.hostName HOST_NAME_MAX
  rw [HOST_NAME_MAX] at h
  rw [UbseMemNodeCalcSize, UBS_TOPO_SOCKET_NUM, UBS_TOPO_NUMA_NUM, HOST_NAME_MAX]
  omega

theorem fdCalcSize_le {desc : UbseMemFdDesc} (h : FdWithin desc.view) :
    UbseMemFdDescCalcSize desc ≤ 16683 := by
  have hname := stringCalcSize_le desc.name maxNameLen
  have hexport := memNodeCalcSize_le desc.exportNode
  have himport := memNodeCalcSize_le desc.importNode
  have hmemids : desc.memIds.length ≤ 2048 := h.memids
  rw [maxNameLen] at hname
  rw [UbseMemFdDescCalcSize, maxNameLen]
  omega

theorem numaCalcSize_le (desc : UbseMemNumaDesc) : UbseMemNumaDescCalcSize desc ≤ 327 := by
  have hname := stringCalcSize_le desc.name maxNameLen
  have hexport := memNodeCalcSize_le desc.exportNode
  have himport := memNodeCalcSize_le desc.importNode
  rw [maxNameLen] at hname
  rw [UbseMemNumaDescCalcSize, maxNameLen, UBSE_MAX_USR_INFO_LEN]
  omega

theorem shmCalcSize_le {desc : UbseMemShmDesc} (h : ShmWithin desc.view) :
    UbseMemShmDescCalcSize desc ≤ 219 + 512 * 16504 := by
  have hname := stringCalcSize_le desc.name maxNameLen
  have hexport := memNodeCalcSize_le desc.exportNode
  have hlength : desc.importDesc.length ≤ 512 := by
    have hlength := h.import_desc
    rwa [UbseMemShmDesc.view, List.length_map] at hlength
  have himports : (desc.importDesc.map UbseMemShmImportDescCalSize).sum ≤
      desc.importDesc.length * 16504 := by
    refine sum_sizes_le desc.importDesc fun d hd => ?_
    have hmemids : d.memIds.length ≤ 2048 :=
      (h.importers d.view (List.mem_map_of_mem hd)).memids
    have hnode := memNodeCalcSize_le d.importNode
    rw [UbseMemShmImportDescCalSize]
    omega
  rw [maxNameLen] at hname
  rw [UbseMemShmDescCalcSize, UbseMemShmImportDescListCalSize, foldl_add_eq, maxNameLen,
    UBSE_MAX_USR_INFO_LEN]
  omega

namespace Response

/-- **The size is computed right** for a response within the limits of the client, and it fits
32 bits. -/
theorem requiredLength_eq {r : Response} (h : r.Within) :
    r.requiredLength = r.bytes.length ∧ r.bytes.length < 2 ^ 32 := by
  cases r with
  | fd desc =>
    have hlen := length_fdBytes h
    have hle := fdCalcSize_le h
    exact ⟨hlen.symm, by rw [bytes, hlen]; omega⟩
  | fdList descs =>
    obtain ⟨hlength, h⟩ := h
    have hsum : (descs.map UbseMemFdDescCalcSize).sum ≤ descs.length * 16683 :=
      sum_sizes_le descs fun desc hdesc => fdCalcSize_le (h desc hdesc)
    rw [UBS_MEM_MAX_DESC_LIST] at hlength
    have hlen : (bytes (fdList descs)).length = 4 + (descs.map UbseMemFdDescCalcSize).sum := by
      rw [bytes, List.length_append, length_wordBytes, List.length_flatMap, size_uint32,
        List.map_congr_left fun desc hdesc => length_fdBytes (h desc hdesc)]
    rw [hlen, requiredLength, UbseMemFdDescListCalcSize, sumSizes_eq]
    omega
  | numa desc =>
    have hlen := length_numaBytes h
    have hle := numaCalcSize_le desc
    exact ⟨hlen.symm, by rw [bytes, hlen]; omega⟩
  | numaList descs =>
    obtain ⟨hlength, h⟩ := h
    have hsum : (descs.map UbseMemNumaDescCalcSize).sum ≤ descs.length * 327 :=
      sum_sizes_le descs fun desc _ => numaCalcSize_le desc
    rw [UBS_MEM_MAX_DESC_LIST] at hlength
    have hlen : (bytes (numaList descs)).length =
        4 + (descs.map UbseMemNumaDescCalcSize).sum := by
      rw [bytes, List.length_append, length_wordBytes, List.length_flatMap, size_uint32,
        List.map_congr_left fun desc hdesc => length_numaBytes (h desc hdesc)]
    rw [hlen, requiredLength, UbseMemNumaDescListCalcSize, sumSizes_eq]
    omega
  | shm desc =>
    have hlen := length_shmBytes h
    have hle := shmCalcSize_le h
    exact ⟨hlen.symm, by rw [bytes, hlen]; omega⟩
  | shmList descs =>
    obtain ⟨⟨hlength, h⟩, hfits⟩ := h
    have hcounts : (descs.flatMap fun desc => importCntBytes desc.view).length =
        descs.length * 4 :=
      length_flatMap_const descs fun _ _ => length_wordBytes _
    have hlen : (bytes (shmList descs)).length =
        4 + descs.length * 4 + (descs.map UbseMemShmDescCalcSize).sum := by
      rw [bytes, List.length_append, List.length_append, length_wordBytes, hcounts,
        List.length_flatMap, size_uint32,
        List.map_congr_left fun desc hdesc => length_shmBytes (h desc hdesc), Nat.add_assoc]
    rw [hlen, requiredLength, UbseMemShmDescListCalcSize, sumSizes_eq, Nat.mod_eq_of_lt hfits]
    exact ⟨rfl, hfits⟩
  | node n superPodId =>
    have hlen := length_topoBytes h
    have hle := nodeCalcSize_le n
    have hword : Word.size UInt16 = 2 := rfl
    rw [bytes, requiredLength, List.length_append, hlen, length_wordBytes, hword]
    omega
  | nodeList nodes superPodId =>
    obtain ⟨hlength, h⟩ := h
    have hsum : (nodes.map UbseNodeCalcSize).sum ≤ nodes.length * 1312 :=
      sum_sizes_le nodes fun n _ => nodeCalcSize_le n
    have hword : Word.size UInt16 = 2 := rfl
    rw [UBS_TOPO_MAX_NODE_NUM] at hlength
    have hlen : (bytes (nodeList nodes superPodId)).length =
        4 + (nodes.map UbseNodeCalcSize).sum + 2 := by
      rw [bytes, List.length_append, List.length_append, length_wordBytes, length_wordBytes,
        List.length_flatMap, size_uint32, hword,
        List.map_congr_left fun n hn => length_topoBytes (h n hn), Nat.add_assoc]
    rw [hlen, requiredLength, UbseNodeListCalcSize, foldl_add_eq]
    omega

/-- The message of a response within the limits of the client. -/
theorem pack_eq {r : Response} (h : r.Within) :
    r.pack = .ok { buffer := r.bytes, length := r.bytes.length } := by
  obtain ⟨hlen, hlt⟩ := requiredLength_eq h
  rw [pack, hlen, (writes_bytes h).run, Nat.mod_eq_of_lt hlt]

/-- What the client accepts is within its limits. -/
theorem within_of_read {r : Response} {buffer : List UInt8} (hlt : buffer.length < 2 ^ 32)
    (h : r.unpack.read buffer = .ok r.seen) : r.Within := by
  obtain ⟨rest, h⟩ := read_eq_ok.1 h
  cases r with
  | fd desc =>
    obtain ⟨desc', mid, hdesc, hseen⟩ := bind_eq_ok.1 h
    obtain rfl := Seen.fd.inj (pure_eq_ok.1 hseen).1
    exact (accepts_fd hdesc).1
  | fdList descs =>
    obtain ⟨descs', mid, hdescs, hseen⟩ := bind_eq_ok.1 h
    obtain rfl := Seen.fdList.inj (pure_eq_ok.1 hseen).1
    obtain ⟨hlength, hwithin⟩ := (accepts_list accepts_fd hdescs).1
    rw [List.length_map] at hlength
    exact ⟨hlength, fun desc hdesc => hwithin _ (List.mem_map_of_mem hdesc)⟩
  | numa desc =>
    obtain ⟨desc', mid, hdesc, hseen⟩ := bind_eq_ok.1 h
    obtain rfl := Seen.numa.inj (pure_eq_ok.1 hseen).1
    exact (accepts_numa hdesc).1
  | numaList descs =>
    obtain ⟨descs', mid, hdescs, hseen⟩ := bind_eq_ok.1 h
    obtain rfl := Seen.numaList.inj (pure_eq_ok.1 hseen).1
    obtain ⟨hlength, hwithin⟩ := (accepts_list accepts_numa hdescs).1
    rw [List.length_map] at hlength
    exact ⟨hlength, fun desc hdesc => hwithin _ (List.mem_map_of_mem hdesc)⟩
  | shm desc =>
    obtain ⟨desc', mid, hdesc, hseen⟩ := bind_eq_ok.1 h
    obtain rfl := Seen.shm.inj (pure_eq_ok.1 hseen).1
    exact (accepts_shmResponse hdesc).1
  | shmList descs =>
    obtain ⟨descs', mid, hdescs, hseen⟩ := bind_eq_ok.1 h
    obtain rfl := Seen.shmList.inj (pure_eq_ok.1 hseen).1
    obtain ⟨⟨hlength, hwithin⟩, hbytes⟩ := accepts_shmList hdescs
    rw [List.length_map] at hlength
    have hwithin' : ∀ desc ∈ descs, ShmWithin desc.view := fun desc hdesc =>
      hwithin _ (List.mem_map_of_mem hdesc)
    refine ⟨⟨hlength, hwithin'⟩, ?_⟩
    -- All of it was in the buffer, which is shorter than that.
    have hcounts : (descs.flatMap fun desc => importCntBytes desc.view).length =
        descs.length * 4 :=
      length_flatMap_const descs fun _ _ => length_wordBytes _
    have hsizes : (descs.map fun desc => (shmBytes desc.view).length) =
        descs.map UbseMemShmDescCalcSize :=
      List.map_congr_left fun desc hdesc => length_shmBytes (hwithin' desc hdesc)
    dsimp only at hbytes
    rw [List.flatMap_map, List.flatMap_map, List.length_append, List.length_append,
      length_wordBytes, hcounts, List.length_flatMap, size_uint32, hsizes] at hbytes
    omega
  | node n superPodId =>
    obtain ⟨node', mid, hnode, hseen⟩ := bind_eq_ok.1 h
    obtain ⟨base, mid', hbase, hview⟩ := bind_eq_ok.1 hnode
    obtain ⟨id, mid'', -, hview⟩ := bind_eq_ok.1 hview
    have heq := (pure_eq_ok.1 hview).1.trans (Seen.node.inj (pure_eq_ok.1 hseen).1)
    have hsame : base.toBaseNode = n.toBaseNode := congrArg ubs_topo_node_t.toBaseNode heq
    have hwithin : NodeWithin n.toBaseNode := hsame ▸ (accepts_topo hbase).1
    exact hwithin
  | nodeList nodes superPodId =>
    obtain ⟨nodes', mid, hnodes, hseen⟩ := bind_eq_ok.1 h
    have heq := Seen.nodeList.inj (pure_eq_ok.1 hseen).1
    obtain ⟨bases, mid', hbases, hviews⟩ := bind_eq_ok.1 hnodes
    obtain ⟨hlength, hwithin⟩ := (accepts_list accepts_topo hbases).1
    split at hviews
    · -- The client returns no nodes, so there are none.
      obtain rfl := (pure_eq_ok.1 hviews).1
      obtain rfl := List.map_eq_nil_iff.1 heq.symm
      exact ⟨Nat.zero_le _, fun _ h => (nomatch h)⟩
    · obtain ⟨id, mid'', -, hviews⟩ := bind_eq_ok.1 hviews
      have hmap := congrArg (List.map ubs_topo_node_t.toBaseNode)
        ((pure_eq_ok.1 hviews).1.trans heq)
      rw [List.map_map, List.map_map] at hmap
      have hlen := congrArg List.length hmap
      rw [List.length_map, List.length_map] at hlen
      refine ⟨hlen ▸ hlength, fun n hn => ?_⟩
      have hmem : n.toBaseNode ∈ bases.map
          (ubs_topo_node_t.toBaseNode ∘ fun node : UbseNode =>
            ({ node with super_pod_id := id } : ubs_topo_node_t)) := by
        rw [hmap]
        exact List.mem_map_of_mem (f := ubs_topo_node_t.toBaseNode ∘ UbseNode.view superPodId) hn
      obtain ⟨base, hbase, hsame⟩ := List.mem_map.1 hmem
      exact hsame ▸ hwithin base hbase

/-- The length of a message has 32 bits. -/
theorem length_lt_of_pack {r : Response} {m : UbseIpcMessage} (h : r.pack = .ok m) :
    m.length < 2 ^ 32 := by
  rw [pack] at h
  split at h
  · exact nomatch h
  · obtain rfl := Except.ok.inj h
    exact Nat.mod_lt _ (by decide)

theorem within_of_agrees {r : Response} {m : UbseIpcMessage} (h : r.pack = .ok m)
    (hagrees : r.Agrees m) : r.Within := by
  refine within_of_read ?_ hagrees.2
  exact Nat.lt_of_le_of_lt (List.length_take_le _ _) (length_lt_of_pack h)

end Response

/-- **The client reads what the server packs just within its own limits**: let a response be
packed. Then the size computed beforehand is the number of bytes packed, and the client gets the
same values, if and only if names have at most 47 bytes and host names at most 63, a descriptor
has at most 2048 blocks (and shared memory at most 512 importers of at most 2048 blocks each),
a list of descriptors has at most 2000 entries and a list of nodes at most 512, and a list of
shared memory has less than 2 ^ 32 bytes. -/
theorem response_agrees_iff (r : Response) (m : UbseIpcMessage) (h : r.pack = .ok m) :
    r.Agrees m ↔ r.Within := by
  refine ⟨fun hagrees => Response.within_of_agrees h hagrees, fun hwithin => ?_⟩
  obtain rfl := Except.ok.inj (h.symm.trans (Response.pack_eq hwithin))
  refine ⟨(Response.requiredLength_eq hwithin).1, ?_⟩
  rw [List.take_length]
  exact Response.read_bytes hwithin

/-- A node with a given host name. -/
def namedNode (hostName : Text) : UbseNode where
  slotId := 1
  socketId := .replicate _ 0
  numaIds := .replicate _ (.replicate _ 0)
  hostName := hostName
  ips := .replicate _ ⟨2, 0, 0, 0⟩

/-- Memory that a node with a given host name lends to another node. -/
def lentBy (hostName : Text) : UbseMemNumaDesc where
  name := [97]
  numaId := 4
  importNode := namedNode [98]
  exportNode := namedNode hostName
  size := 4194304
  state := .UBSE_EXIST
  usrInfo := .replicate _ 0

/-- A host name of 63 bytes is read. -/
theorem response_agrees_iff_lentBy :
    ∃ m, (Response.numa (lentBy (List.replicate 63 99))).pack = .ok m ∧
      ((Response.numa (lentBy (List.replicate 63 99))).Agrees m ↔
        (Response.numa (lentBy (List.replicate 63 99))).Within) := by
  have hwithin : (Response.numa (lentBy (List.replicate 63 99))).Within :=
    ⟨by decide, ⟨by decide⟩, ⟨by decide⟩⟩
  exact ⟨_, Response.pack_eq hwithin, response_agrees_iff _ _ (Response.pack_eq hwithin)⟩

/-- **A host name of the greatest length is packed, but not read**. -/
theorem response_not_agrees_longestHostName :
    ¬ ∀ (desc : UbseMemNumaDesc) (m : UbseIpcMessage),
      desc.name.length ≤ maxNameLen → desc.exportNode.hostName.length ≤ HOST_NAME_MAX →
        desc.importNode.hostName.length ≤ HOST_NAME_MAX →
          (Response.numa desc).pack = .ok m → (Response.numa desc).Agrees m := by
  intro h
  have hok : (Response.numa (lentBy (List.replicate 64 99))).pack.isOk = true := by
    decide +kernel
  rcases hpack : (Response.numa (lentBy (List.replicate 64 99))).pack with e | m
  · rw [hpack] at hok
    exact nomatch hok
  · have hagrees := h _ m (by decide) (by decide) (by decide) hpack
    have hwithin : NumaWithin (lentBy (List.replicate 64 99)).view :=
      Response.within_of_agrees hpack hagrees
    exact absurd hwithin.export_node.hostName (by decide)

end Convert

end UbsEngine
