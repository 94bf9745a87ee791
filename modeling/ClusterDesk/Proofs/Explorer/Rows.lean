import ClusterDesk.Backend.Listing
import ClusterDesk.Proofs.Json.Items
import ClusterDesk.Proofs.Json.Records

/-!
# Rows behind their trees

A row is decoded from the tree that it is written as, with the members in key order.
-/

namespace ClusterDesk

open Json (Decoder Record)

@[simp] theorem OperatorLabel.decoder_sorted_toJson (o : OperatorLabel) :
    decoder o.toJson.sorted = .ok o :=
  Record.decode_sorted_obj (by simp)

theorem Operator.decoder_sorted_toJson (o : Operator) :
    decoder o.toJson.sorted = .ok o :=
  Record.decode_sorted_obj (by simp)

theorem Cluster.decoder_sorted_toJson (c : Cluster) :
    decoder c.toJson.sorted = .ok c :=
  Record.decode_sorted_obj (by simp)

theorem ClusterDetails.decoder_sorted_toJson (c : ClusterDetails) :
    decoder c.toJson.sorted = .ok c :=
  Record.decode_sorted_obj (by simp)

theorem Validator.decoder_sorted_toJson (v : Validator) :
    decoder v.toJson.sorted = .ok v :=
  Record.decode_sorted_obj (by simp)

theorem Event.decoder_sorted_toJson (e : Event) :
    decoder e.toJson.sorted = .ok e :=
  Record.decode_sorted_obj (by simp)

theorem ProposedBlock.decoder_sorted_toJson (b : ProposedBlock) :
    decoder b.toJson.sorted = .ok b :=
  Record.decode_sorted_obj (by simp)

/-- Every row of every listing is decoded from what it is written as. -/
theorem Backend.Listing.decoder_sorted_rowJson (l : Listing) (row : l.Row) :
    l.decoder (l.rowJson row).sorted = .ok row := by
  cases l with
  | operators => exact Operator.decoder_sorted_toJson row
  | clusters => exact Cluster.decoder_sorted_toJson row
  | validators => exact Validator.decoder_sorted_toJson row
  | events => exact Event.decoder_sorted_toJson row
  | blocks cluster => exact ProposedBlock.decoder_sorted_toJson row
  | ranking => exact ClusterDetails.decoder_sorted_toJson row

end ClusterDesk
