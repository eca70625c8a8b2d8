import RecordGraph.Decode.Records
import RecordGraph.Settings.Basic

/-!
# Decoding settings

Settings as a JSON record. Every field may be absent, and unknown ones are passed over.
-/

namespace RecordGraph

def ServerSettings.decode : Decoder ServerSettings :=
  let preset := ServerSettings.default
  .record (.counted "GraphConfig" 6) false
    (.optional "uri" .str preset.uri <| .optional "user" .str preset.user <|
      .optional "password" .str preset.password <|
      .optional "database" (.nullable .str) preset.database <|
      .optional "max_connections" .uint32 preset.maxConnections <|
      .optional "fetch_size" (fun source d => (Decoder.size source d).map UInt64.ofNat)
        preset.fetchSize .nil)
    fun (uri, user, password, database, maxConnections, fetchSize, _) =>
      .ok ⟨uri, user, password, database, maxConnections, fetchSize⟩

def WriterSettings.decode : Decoder WriterSettings :=
  let preset := WriterSettings.default
  .record (.counted "WriterConfig" 3) false
    (.optional "max_retries" .uint32 preset.maxRetries <|
      .optional "transaction_timeout_ms" (.nullable .uint64) preset.timeoutMillis <|
      .optional "retry_backoff_ms" .uint64 preset.backoffMillis .nil)
    fun (maxRetries, timeoutMillis, backoffMillis, _) =>
      .ok ⟨maxRetries, timeoutMillis, backoffMillis⟩

def Settings.decode : Decoder Settings :=
  .record (.counted "MetagraphConfig" 3) false
    (.optional "neo4j" ServerSettings.decode .default <|
      .optional "writer" WriterSettings.decode .default <|
      .optional "entity_types" (.list Descriptor.decode) [] .nil)
    fun (server, writer, entityTypes, _) => .ok ⟨server, writer, entityTypes⟩

end RecordGraph
