import SszSchema.Proofs.Decoding
import SszSchema.Proofs.Encoding
import SszSchema.Proofs.Generation

/-!
# Generated routines

What generated routines do, for all schemas that a run accepts: encoders write the encodings that
the format defines, decoders read back what encoders wrote, and decoders accept nothing else.
-/

namespace SszSchema

/-! ## A recursive record -/

/-- A unit with a record that contains lists of itself. -/
def treeUnit : SourceUnit where
  path := ⟨"", ["tree.py"]⟩
  moduleName := "tree"
  inPackage := false
  records := [⟨"Tree", [⟨"key", .name "uint16", "uint16", "", 3⟩,
    ⟨"nodes", .apply "List" (.name "Tree"), "List[Tree]", "ssz-max:\"4\"", 4⟩], "tree.py", 2⟩]

/-- The resolution of the record. -/
def treeResolution : Resolution :=
  (Resolution.run { units := [treeUnit] } (Resolution.resolve "Tree")).2

/-- The code of the record. -/
def treeCodes : List RecordCode :=
  [{ name := "Tree"
     isDynamic := true
     fixedSize := some 6
     fields := [⟨"key", .uint 2, .uint, some 2⟩,
      ⟨"nodes", .sequence (.atMost (some 4)) true (.record "Tree"),
        .sequence (.atMost (some 4)) none (.record "Tree"), none⟩]
     measures := [("nodes", .dynamicItems (.record "Tree"))] }]

theorem accepted_tree : Accepted [treeUnit] treeResolution treeCodes where
  reached := .step (.start (Resolution.ofUnits_eq_ok (by decide +kernel))) "Tree"
  generated := ⟨none, false, fun _ => true, none, some ⟨"", ["out.py"]⟩, {}, by decide +kernel⟩

theorem coded_tree : Coded treeCodes "Tree" := by decide

/-- A tree with one node below its root. -/
def smallTree : Value :=
  .record [("key", .uint 7), ("nodes", .list [.record [("key", .uint 1), ("nodes", .list [])]])]

/-- Its encoding. -/
def smallTreeBytes : List UInt8 := [7, 0, 6, 0, 0, 0, 4, 0, 0, 0, 1, 0, 6, 0, 0, 0]

/-! ## Encoding and decoding -/

variable {units : List SourceUnit} {r : Resolution} {codes : List RecordCode} {name : String}
  {v w : Value} {bs : List UInt8}

namespace Accepted

/-- A generated encoder returns just the encoding of a value. -/
theorem marshal_iff_serialized (h : Accepted units r codes) (hname : Coded codes name) :
    Codec.marshal codes name v = .ok bs ↔ Serialized r.catalog (.record name) v bs :=
  h.implements.marshal_eq_ok_iff hname

theorem serialized_smallTree :
    Serialized treeResolution.catalog (.record "Tree") smallTree smallTreeBytes :=
  (accepted_tree.marshal_iff_serialized coded_tree).mp (by decide +kernel)

/-- A decoder accepts just the encodings of values: what it reads is encoded to the bytes it was
read from, keeps to all bounds and is read from no other bytes. -/
theorem marshal_of_unmarshal (h : Accepted units r codes) (hname : Coded codes name)
    (hw : Codec.unmarshal codes name bs = .ok w) :
    Codec.marshal codes name w = .ok bs ∧ Conforms r.catalog (.record name) w ∧
      ∀ bs', Codec.unmarshal codes name bs' = .ok w → bs' = bs := by
  have hencoded {bs : List UInt8} (hw : Codec.unmarshal codes name bs = .ok w) :
      Codec.marshal codes name w = .ok bs :=
    (h.implements.marshal_eq_ok_iff hname).mpr ((h.implements.unmarshal_eq_ok_iff hname).mp hw).1
  refine ⟨hencoded hw, ((h.implements.unmarshal_eq_ok_iff hname).mp hw).1.conforms, ?_⟩
  intro bs' hw'
  exact Except.ok.inj ((hencoded hw').symm.trans (hencoded hw))

theorem marshal_smallTree : ∃ w, Codec.unmarshal treeCodes "Tree" smallTreeBytes = .ok w ∧
    Codec.marshal treeCodes "Tree" w = .ok smallTreeBytes ∧
      Conforms treeResolution.catalog (.record "Tree") w ∧
      ∀ bs', Codec.unmarshal treeCodes "Tree" bs' = .ok w → bs' = smallTreeBytes := by
  obtain ⟨w, hw⟩ : ∃ w, Codec.unmarshal treeCodes "Tree" smallTreeBytes = .ok w :=
    Outcome.exists_eq_ok (by decide +kernel)
  exact ⟨w, hw, accepted_tree.marshal_of_unmarshal coded_tree hw⟩

end Accepted

end SszSchema
