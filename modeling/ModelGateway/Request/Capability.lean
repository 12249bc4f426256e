import ModelGateway.Request.Chat

/-!
# Requests by capability

What a client can ask for besides chat: embeddings, images, a ranking of documents, speech, and a
body in a provider's own form, which is passed on as it is.
-/

namespace ModelGateway

open Json (Decoder RecordReader)

structure EmbeddingRequest where
  model : String
  input : Option Json := none
  encodingFormat : Option String := none
  dimensions : Option Nat := none
  user : Option String := none
  deriving DecidableEq

structure ImageRequest where
  model : String
  prompt : String
  n : Option Nat := none
  size : Option String := none
  quality : Option String := none
  responseFormat : Option String := none
  style : Option String := none
  user : Option String := none
  deriving DecidableEq, Repr

structure RerankRequest where
  model : String
  query : String
  documents : List Json
  topN : Option Nat := none
  deriving DecidableEq

structure SpeechRequest where
  model : String
  input : String
  voice : String := ""
  deriving DecidableEq, Repr

namespace EmbeddingRequest

def decoder : Decoder EmbeddingRequest :=
  (EmbeddingRequest.mk <$> .required "model" .string <*> .nullable "input" .json
    <*> .nullable "encoding_format" .string <*> .nullable "dimensions" .nat32
    <*> .nullable "user" .string : RecordReader _).decoder

def json (r : EmbeddingRequest) : Json :=
  .record [
    .of "model" (.str r.model),
    .of "input" (r.input.getD .null),
    .ifSome "encoding_format" .str r.encodingFormat,
    .ifSome "dimensions" .nat r.dimensions,
    .ifSome "user" .str r.user]

def inputs (r : EmbeddingRequest) : List String :=
  match r.input with
  | some (.str s) => [s]
  | some (.arr items) => items.filterMap Json.str?
  | _ => []

end EmbeddingRequest

namespace ImageRequest

def decoder : Decoder ImageRequest :=
  (ImageRequest.mk <$> .required "model" .string <*> .required "prompt" .string
    <*> .nullable "n" .nat32 <*> .nullable "size" .string <*> .nullable "quality" .string
    <*> .nullable "response_format" .string <*> .nullable "style" .string
    <*> .nullable "user" .string : RecordReader _).decoder

def json (r : ImageRequest) : Json :=
  .record [
    .of "model" (.str r.model),
    .of "prompt" (.str r.prompt),
    .ifSome "n" .nat r.n,
    .ifSome "size" .str r.size,
    .ifSome "quality" .str r.quality,
    .ifSome "response_format" .str r.responseFormat,
    .ifSome "style" .str r.style,
    .ifSome "user" .str r.user]

end ImageRequest

namespace RerankRequest

def decoder : Decoder RerankRequest :=
  (RerankRequest.mk <$> .required "model" .string <*> .required "query" .string
    <*> .required "documents" (.list .json) <*> .nullable "top_n" .nat32
    : RecordReader _).decoder

def json (r : RerankRequest) : Json :=
  .record [
    .of "model" (.str r.model),
    .of "query" (.str r.query),
    .of "documents" (.arr r.documents),
    .ifSome "top_n" .nat r.topN]

end RerankRequest

namespace SpeechRequest

def decoder : Decoder SpeechRequest :=
  (SpeechRequest.mk <$> .required "model" .string <*> .required "input" .string
    <*> .withDefault "voice" .string "" : RecordReader _).decoder

def json (r : SpeechRequest) : Json :=
  .record [
    .of "model" (.str r.model),
    .of "input" (.str r.input),
    .of "voice" (.str r.voice)]

end SpeechRequest

/-- A request in the gateway's own form. -/
inductive Request where
  | chat (r : ChatRequest)
  | embedding (r : EmbeddingRequest)
  | image (r : ImageRequest)
  | rerank (r : RerankRequest)
  | speech (r : SpeechRequest)
  | native (body : Json)
  deriving DecidableEq

namespace Request

def capability : Request → String
  | .chat _ => "chat"
  | .embedding _ => "embedding"
  | .image _ => "image"
  | .rerank _ => "rerank"
  | .speech _ => "audio"
  | .native _ => "native"

def decoder (capability : String) : Decoder Request :=
  match capability with
  | "embedding" => EmbeddingRequest.decoder.mapped .embedding
  | "image" => ImageRequest.decoder.mapped .image
  | "rerank" => RerankRequest.decoder.mapped .rerank
  | "audio" => SpeechRequest.decoder.mapped .speech
  | "native" => Decoder.json.mapped .native
  | _ => ChatRequest.decoder.mapped .chat

end Request

/-- The kinds of exchanges with a provider. -/
inductive RelayMode where
  | chat
  | embeddings
  | images
  | rerank
  | speech
  | native
  deriving DecidableEq, Repr

def Request.mode : Request → RelayMode
  | .chat _ => .chat
  | .embedding _ => .embeddings
  | .image _ => .images
  | .rerank _ => .rerank
  | .speech _ => .speech
  | .native _ => .native

end ModelGateway
