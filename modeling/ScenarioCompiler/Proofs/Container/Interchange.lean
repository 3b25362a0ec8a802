import ScenarioCompiler.Container.Schema
import ScenarioCompiler.Proofs.Schema.Codec

namespace ScenarioCompiler

open Schema Schema.Decoder Schema.Fields

/-! ### The records are read from their documents

The fields are taken from the last one to the first, as they are applied. -/

theorem ResourceSize.decoder_reads : ResourceSize.decoder.Reads toJson := by
  refine record_reads (by decide) (fun _ => rfl) fun x hd => ?_
  cases x
  refine gives_seq ?_ (gives_required hd text_reads rfl)
  exact gives_map _ (gives_required hd text_reads rfl)

theorem ResourceSizing.decoder_reads : ResourceSizing.decoder.Reads toJson := by
  refine record_reads (by decide) (fun _ => rfl) fun x hd => ?_
  cases x
  refine gives_seq ?_ (gives_required hd ResourceSize.decoder_reads rfl)
  exact gives_map _ (gives_required hd ResourceSize.decoder_reads rfl)

theorem Container.decoder_reads : Container.decoder.Reads toJson := by
  refine record_reads (by decide) (fun _ => rfl) fun x hd => ?_
  cases x
  refine gives_seq ?_ (gives_optional hd ResourceSizing.decoder_reads rfl)
  refine gives_seq ?_ (gives_withDefault hd bool_reads rfl false)
  refine gives_seq ?_ (gives_optional hd (list_reads text_reads) rfl)
  refine gives_seq ?_ (gives_optional hd bindings_reads rfl)
  refine gives_seq ?_ (gives_optional hd bindings_reads rfl)
  refine gives_seq ?_ (gives_optional hd (list_reads text_reads) rfl)
  refine gives_seq ?_ (gives_optional hd text_reads rfl)
  refine gives_seq ?_ (gives_required hd text_reads rfl)
  exact gives_map _ (gives_required hd text_reads rfl)

theorem RunStart.decoder_reads : RunStart.decoder.Reads toJson := by
  refine record_reads (by decide) (fun _ => rfl) fun x hd => ?_
  cases x
  refine gives_seq ?_ (gives_optional hd bindings_reads rfl)
  refine gives_seq ?_ (gives_required hd text_reads rfl)
  refine gives_seq ?_ (gives_optional hd text_reads rfl)
  refine gives_seq ?_ (gives_optional hd text_reads rfl)
  exact gives_map _ (gives_required hd (list_reads Container.decoder_reads) rfl)

/-! ### Their texts determine the documents -/

theorem Json.plain_ofOption {α : Type} {f : α → Json} (h : ∀ x, (f x).Plain) (o : Option α) :
    (ofOption f o).Plain := by
  cases o with
  | none => exact plain_null
  | some x => exact h x

theorem Json.plain_list {α : Type} {f : α → Json} (h : ∀ x, (f x).Plain) (items : List α) :
    (arr (items.map f)).Plain :=
  plain_arr.2 fun _ hm => by
    obtain ⟨x, -, rfl⟩ := List.mem_map.1 hm
    exact h x

theorem Bindings.toJson_plain (b : Bindings) : b.toJson.Plain := by
  refine Json.plain_obj.2 ⟨?_, fun field hm => ?_⟩
  · rw [Table.names, List.map_map]
    exact b.distinct
  · obtain ⟨entry, -, rfl⟩ := List.mem_map.1 hm
    exact Json.plain_str entry.2

theorem ResourceSize.toJson_plain (x : ResourceSize) : x.toJson.Plain :=
  Json.plain_obj.2 ⟨by simp [Table.names], by simp⟩

theorem ResourceSizing.toJson_plain (x : ResourceSizing) : x.toJson.Plain :=
  Json.plain_obj.2 ⟨by simp [Table.names], by simp [ResourceSize.toJson_plain]⟩

theorem Container.toJson_plain (c : Container) : c.toJson.Plain := by
  have htext (o : Option String) := Json.plain_ofOption Json.plain_str o
  have htexts (o : Option (List String)) :=
    Json.plain_ofOption (f := Json.ofStrings) (Json.plain_list Json.plain_str) o
  have hbindings (o : Option Bindings) := Json.plain_ofOption Bindings.toJson_plain o
  have hsizing := Json.plain_ofOption ResourceSizing.toJson_plain c.runSizing
  exact Json.plain_obj.2 ⟨by simp [Table.names], by simp [htext, htexts, hbindings, hsizing]⟩

theorem RunStart.toJson_plain (s : RunStart) : s.toJson.Plain := by
  have hcontainers := Json.plain_list Container.toJson_plain s.containers
  have htext (o : Option String) := Json.plain_ofOption Json.plain_str o
  have hlabels := Json.plain_ofOption Bindings.toJson_plain s.labels
  exact Json.plain_obj.2 ⟨by simp [Table.names], by simp [htext, hcontainers, hlabels]⟩

namespace RunStart

theorem decoder_document (s : RunStart) : decoder.read (.ofJson s.document) = .ok s :=
  (decoder_reads s).2

theorem document_plain (s : RunStart) : s.document.Plain := Json.plain_dropNulls s.toJson_plain

end RunStart

end ScenarioCompiler
