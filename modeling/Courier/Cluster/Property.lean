/-!
# Client properties

The names of the properties that a client of a cluster knows. A client made with any other property
is refused.
-/

namespace Courier.Cluster

/-- The names of all known properties in alphabetical order. -/
def propertyNames : List String :=
  ["acks", "allow.auto.create.topics", "api.version.fallback.ms", "api.version.request",
   "api.version.request.timeout.ms", "auto.commit.enable", "auto.commit.interval.ms",
   "auto.offset.reset", "background.event_cb", "batch.num.messages", "batch.size",
   "bootstrap.servers", "broker.address.family", "broker.address.ttl", "broker.version.fallback",
   "builtin.features", "check.crcs", "client.dns.lookup", "client.id", "client.rack",
   "closesocket.cb", "compression.codec", "compression.level", "compression.type", "connect.cb",
   "connections.max.idle.ms", "consume.callback.max.messages", "consume.cb",
   "coordinator.query.interval.ms", "debug", "default.topic.conf", "delivery.report.only.error",
   "delivery.timeout.ms", "dr.cb", "dr.msg_cb", "enable.auto.commit", "enable.auto.offset.store",
   "enable.gapless.guarantee", "enable.idempotence", "enable.metrics.push",
   "enable.partition.eof", "enable.random.seed", "enable.sasl.oauthbearer.unsecure.jwt",
   "enable.sparse.connections", "enable.ssl.certificate.verification", "error.cb",
   "fetch.error.backoff.ms", "fetch.max.bytes", "fetch.message.max.bytes", "fetch.min.bytes",
   "fetch.queue.backoff.ms", "fetch.wait.max.ms", "group.id", "group.instance.id",
   "group.protocol", "group.protocol.type", "group.remote.assignor", "heartbeat.interval.ms",
   "https.ca.location", "https.ca.pem", "interceptors", "internal.termination.signal",
   "isolation.level", "linger.ms", "log.connection.close", "log.queue", "log.thread.name",
   "log_cb", "log_level", "max.in.flight", "max.in.flight.requests.per.connection",
   "max.partition.fetch.bytes", "max.poll.interval.ms", "message.copy.max.bytes",
   "message.max.bytes", "message.send.max.retries", "message.timeout.ms", "metadata.broker.list",
   "metadata.max.age.ms", "metadata.recovery.rebootstrap.trigger.ms",
   "metadata.recovery.strategy", "msg_order.cmp", "oauth.cb", "oauthbearer.token_refresh_cb",
   "offset.store.method", "offset.store.path", "offset.store.sync.interval.ms",
   "offset_commit_cb", "opaque", "open.cb", "partition.assignment.strategy", "partitioner",
   "partitioner_cb", "plugin.library.paths", "produce.offset.report",
   "queue.buffering.backpressure.threshold", "queue.buffering.max.kbytes",
   "queue.buffering.max.messages", "queue.buffering.max.ms", "queued.max.messages.kbytes",
   "queued.min.messages", "queuing.strategy", "rebalance_cb", "receive.message.max.bytes",
   "reconnect.backoff.jitter.ms", "reconnect.backoff.max.ms", "reconnect.backoff.ms",
   "request.required.acks", "request.timeout.ms", "resolve_cb", "retries",
   "retry.backoff.max.ms", "retry.backoff.ms", "sasl.kerberos.keytab", "sasl.kerberos.kinit.cmd",
   "sasl.kerberos.min.time.before.relogin", "sasl.kerberos.principal",
   "sasl.kerberos.service.name", "sasl.mechanism", "sasl.mechanisms",
   "sasl.oauthbearer.assertion.algorithm", "sasl.oauthbearer.assertion.claim.aud",
   "sasl.oauthbearer.assertion.claim.exp.seconds", "sasl.oauthbearer.assertion.claim.iss",
   "sasl.oauthbearer.assertion.claim.jti.include",
   "sasl.oauthbearer.assertion.claim.nbf.seconds", "sasl.oauthbearer.assertion.claim.sub",
   "sasl.oauthbearer.assertion.file", "sasl.oauthbearer.assertion.jwt.template.file",
   "sasl.oauthbearer.assertion.private.key.file",
   "sasl.oauthbearer.assertion.private.key.passphrase",
   "sasl.oauthbearer.assertion.private.key.pem", "sasl.oauthbearer.client.credentials.client.id",
   "sasl.oauthbearer.client.credentials.client.secret", "sasl.oauthbearer.client.id",
   "sasl.oauthbearer.client.secret", "sasl.oauthbearer.config", "sasl.oauthbearer.extensions",
   "sasl.oauthbearer.grant.type", "sasl.oauthbearer.method", "sasl.oauthbearer.scope",
   "sasl.oauthbearer.token.endpoint.url", "sasl.password", "sasl.username", "security.protocol",
   "session.timeout.ms", "socket.blocking.max.ms", "socket.connection.setup.timeout.ms",
   "socket.keepalive.enable", "socket.max.fails", "socket.nagle.disable",
   "socket.receive.buffer.bytes", "socket.send.buffer.bytes", "socket.timeout.ms", "socket_cb",
   "ssl.ca.certificate.stores", "ssl.ca.location", "ssl.ca.pem", "ssl.certificate.location",
   "ssl.certificate.pem", "ssl.certificate.verify_cb", "ssl.cipher.suites", "ssl.crl.location",
   "ssl.curves.list", "ssl.endpoint.identification.algorithm", "ssl.engine.id",
   "ssl.engine.location", "ssl.key.location", "ssl.key.password", "ssl.key.pem",
   "ssl.keystore.location", "ssl.keystore.password", "ssl.providers", "ssl.sigalgs.list",
   "ssl_ca", "ssl_certificate", "ssl_engine_callback_data", "ssl_key", "statistics.interval.ms",
   "stats_cb", "sticky.partitioning.linger.ms", "test.mock.broker.rtt", "test.mock.num.brokers",
   "throttle.cb", "topic.blacklist", "topic.metadata.propagation.max.ms",
   "topic.metadata.refresh.fast.cnt", "topic.metadata.refresh.fast.interval.ms",
   "topic.metadata.refresh.interval.ms", "topic.metadata.refresh.sparse",
   "transaction.timeout.ms", "transactional.id"]

/-- A property that clients know. -/
def isKnownProperty (property : String) : Bool :=
  propertyNames.contains property

end Courier.Cluster
