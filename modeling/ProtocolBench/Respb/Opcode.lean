import Mathlib.Tactic

/-!
The request opcodes of `respb.h`. `Op` names each `RESPB_OP_*` constant and `Op.code` is its
value. The header lays the opcodes out by command type in dense runs, each from a base value;
`opGroups` lists the runs, and `Op.ofCode` looks a value up in them. The two are inverse
(`Op.ofCode_eq_some_iff`), so the parser's `switch` on the opcode value is a `match` on
`Op.ofCode`. The response opcodes `RESPB_RESP_*` are read by nothing and are left out.
-/

namespace ProtocolBench.Respb

inductive Op where
  | get | set | append | decr | decrby | getdel | getex | getrange | getset | incr | incrby
  | incrbyfloat | mget | mset | msetnx | psetex | setex | setnx | setrange | strlen | substr
  | lcs | delifeq
  | lpush | rpush | lpop | rpop | llen | lrange | lindex | lset | lrem | ltrim | linsert
  | lpushx | rpushx | rpoplpush | lmove | lmpop | lpos | blpop | brpop | brpoplpush | blmove
  | blmpop
  | sadd | srem | smembers | sismember | scard | spop | srandmember | sinter | sinterstore
  | sunion | sunionstore | sdiff | sdiffstore | smove | sscan | sintercard | smismember
  | zadd | zrem | zcard | zcount | zincrby | zrange | zrangebyscore | zrangebylex | zrevrange
  | zrevrangebyscore | zrevrangebylex | zrank | zrevrank | zscore | zmscore | zremrangebyrank
  | zremrangebyscore | zremrangebylex | zlexcount | zpopmin | zpopmax | bzpopmin | bzpopmax
  | zrandmember | zdiff | zdiffstore | zinter | zinterstore | zintercard | zunion | zunionstore
  | zscan | zmpop | bzmpop | zrangestore
  | hset | hget | hmset | hmget | hgetall | hdel | hexists | hincrby | hincrbyfloat | hkeys
  | hvals | hlen | hsetnx | hstrlen | hscan | hrandfield | hexpire | hexpireat | hexpiretime
  | hpexpire | hpexpireat | hpexpiretime | hpttl | httl | hpersist | hgetex | hsetex
  | setbit | getbit | bitcount | bitpos | bitop | bitfield | bitfieldRo
  | pfadd | pfcount | pfmerge | pfdebug | pfselftest
  | geoadd | geodist | geohash | geopos | georadius | georadiusbymember | georadiusRo
  | georadiusbymemberRo | geosearch | geosearchstore
  | xadd | xlen | xrange | xrevrange | xread | xreadgroup | xdel | xtrim | xack | xpending
  | xclaim | xautoclaim | xinfo | xgroup | xsetid
  | del | unlink | «exists» | expire | expireat | expiretime | pexpire | pexpireat | pexpiretime
  | ttl | pttl | persist | keys | scan | randomkey | rename | renamenx | type | dump | restore
  | migrate | move | copy | sort | sortRo | touch | object | wait | waitaof
  | ping | echo | auth | select | quit | hello | reset | client
  | multi | exec | discard | watch | unwatch
  | eval | evalsha | evalRo | evalshaRo | script | fcall | fcallRo | function
  | cluster | readonly | readwrite | asking
  | dbsize | flushdb | flushall | save | bgsave | bgrewriteaof | lastsave | shutdown | info
  | config | command | time | role | replicaof | slaveof | monitor | debug | sync | psync
  | replconf | slowlog | latency | memory | moduleCmd | acl | failover | swapdb | lolwut
  | restoreAsking | commandlog
  | publish | subscribe | unsubscribe | psubscribe | punsubscribe | pubsub | spublish
  | ssubscribe | sunsubscribe
  | module
  | respPassthrough
  deriving DecidableEq, Repr

def Op.code : Op → UInt16
  | .get => 0x0000
  | .set => 0x0001
  | .append => 0x0002
  | .decr => 0x0003
  | .decrby => 0x0004
  | .getdel => 0x0005
  | .getex => 0x0006
  | .getrange => 0x0007
  | .getset => 0x0008
  | .incr => 0x0009
  | .incrby => 0x000A
  | .incrbyfloat => 0x000B
  | .mget => 0x000C
  | .mset => 0x000D
  | .msetnx => 0x000E
  | .psetex => 0x000F
  | .setex => 0x0010
  | .setnx => 0x0011
  | .setrange => 0x0012
  | .strlen => 0x0013
  | .substr => 0x0014
  | .lcs => 0x0015
  | .delifeq => 0x0016
  | .lpush => 0x0040
  | .rpush => 0x0041
  | .lpop => 0x0042
  | .rpop => 0x0043
  | .llen => 0x0044
  | .lrange => 0x0045
  | .lindex => 0x0046
  | .lset => 0x0047
  | .lrem => 0x0048
  | .ltrim => 0x0049
  | .linsert => 0x004A
  | .lpushx => 0x004B
  | .rpushx => 0x004C
  | .rpoplpush => 0x004D
  | .lmove => 0x004E
  | .lmpop => 0x004F
  | .lpos => 0x0050
  | .blpop => 0x0051
  | .brpop => 0x0052
  | .brpoplpush => 0x0053
  | .blmove => 0x0054
  | .blmpop => 0x0055
  | .sadd => 0x0080
  | .srem => 0x0081
  | .smembers => 0x0082
  | .sismember => 0x0083
  | .scard => 0x0084
  | .spop => 0x0085
  | .srandmember => 0x0086
  | .sinter => 0x0087
  | .sinterstore => 0x0088
  | .sunion => 0x0089
  | .sunionstore => 0x008A
  | .sdiff => 0x008B
  | .sdiffstore => 0x008C
  | .smove => 0x008D
  | .sscan => 0x008E
  | .sintercard => 0x008F
  | .smismember => 0x0090
  | .zadd => 0x00C0
  | .zrem => 0x00C1
  | .zcard => 0x00C2
  | .zcount => 0x00C3
  | .zincrby => 0x00C4
  | .zrange => 0x00C5
  | .zrangebyscore => 0x00C6
  | .zrangebylex => 0x00C7
  | .zrevrange => 0x00C8
  | .zrevrangebyscore => 0x00C9
  | .zrevrangebylex => 0x00CA
  | .zrank => 0x00CB
  | .zrevrank => 0x00CC
  | .zscore => 0x00CD
  | .zmscore => 0x00CE
  | .zremrangebyrank => 0x00CF
  | .zremrangebyscore => 0x00D0
  | .zremrangebylex => 0x00D1
  | .zlexcount => 0x00D2
  | .zpopmin => 0x00D3
  | .zpopmax => 0x00D4
  | .bzpopmin => 0x00D5
  | .bzpopmax => 0x00D6
  | .zrandmember => 0x00D7
  | .zdiff => 0x00D8
  | .zdiffstore => 0x00D9
  | .zinter => 0x00DA
  | .zinterstore => 0x00DB
  | .zintercard => 0x00DC
  | .zunion => 0x00DD
  | .zunionstore => 0x00DE
  | .zscan => 0x00DF
  | .zmpop => 0x00E0
  | .bzmpop => 0x00E1
  | .zrangestore => 0x00E2
  | .hset => 0x0100
  | .hget => 0x0101
  | .hmset => 0x0102
  | .hmget => 0x0103
  | .hgetall => 0x0104
  | .hdel => 0x0105
  | .hexists => 0x0106
  | .hincrby => 0x0107
  | .hincrbyfloat => 0x0108
  | .hkeys => 0x0109
  | .hvals => 0x010A
  | .hlen => 0x010B
  | .hsetnx => 0x010C
  | .hstrlen => 0x010D
  | .hscan => 0x010E
  | .hrandfield => 0x010F
  | .hexpire => 0x0110
  | .hexpireat => 0x0111
  | .hexpiretime => 0x0112
  | .hpexpire => 0x0113
  | .hpexpireat => 0x0114
  | .hpexpiretime => 0x0115
  | .hpttl => 0x0116
  | .httl => 0x0117
  | .hpersist => 0x0118
  | .hgetex => 0x0119
  | .hsetex => 0x011A
  | .setbit => 0x0140
  | .getbit => 0x0141
  | .bitcount => 0x0142
  | .bitpos => 0x0143
  | .bitop => 0x0144
  | .bitfield => 0x0145
  | .bitfieldRo => 0x0146
  | .pfadd => 0x0160
  | .pfcount => 0x0161
  | .pfmerge => 0x0162
  | .pfdebug => 0x0163
  | .pfselftest => 0x0164
  | .geoadd => 0x0180
  | .geodist => 0x0181
  | .geohash => 0x0182
  | .geopos => 0x0183
  | .georadius => 0x0184
  | .georadiusbymember => 0x0185
  | .georadiusRo => 0x0186
  | .georadiusbymemberRo => 0x0187
  | .geosearch => 0x0188
  | .geosearchstore => 0x0189
  | .xadd => 0x01C0
  | .xlen => 0x01C1
  | .xrange => 0x01C2
  | .xrevrange => 0x01C3
  | .xread => 0x01C4
  | .xreadgroup => 0x01C5
  | .xdel => 0x01C6
  | .xtrim => 0x01C7
  | .xack => 0x01C8
  | .xpending => 0x01C9
  | .xclaim => 0x01CA
  | .xautoclaim => 0x01CB
  | .xinfo => 0x01CC
  | .xgroup => 0x01CD
  | .xsetid => 0x01CE
  | .del => 0x02C0
  | .unlink => 0x02C1
  | .«exists» => 0x02C2
  | .expire => 0x02C3
  | .expireat => 0x02C4
  | .expiretime => 0x02C5
  | .pexpire => 0x02C6
  | .pexpireat => 0x02C7
  | .pexpiretime => 0x02C8
  | .ttl => 0x02C9
  | .pttl => 0x02CA
  | .persist => 0x02CB
  | .keys => 0x02CC
  | .scan => 0x02CD
  | .randomkey => 0x02CE
  | .rename => 0x02CF
  | .renamenx => 0x02D0
  | .type => 0x02D1
  | .dump => 0x02D2
  | .restore => 0x02D3
  | .migrate => 0x02D4
  | .move => 0x02D5
  | .copy => 0x02D6
  | .sort => 0x02D7
  | .sortRo => 0x02D8
  | .touch => 0x02D9
  | .object => 0x02DA
  | .wait => 0x02DB
  | .waitaof => 0x02DC
  | .ping => 0x0300
  | .echo => 0x0301
  | .auth => 0x0302
  | .select => 0x0303
  | .quit => 0x0304
  | .hello => 0x0305
  | .reset => 0x0306
  | .client => 0x0307
  | .multi => 0x0240
  | .exec => 0x0241
  | .discard => 0x0242
  | .watch => 0x0243
  | .unwatch => 0x0244
  | .eval => 0x0260
  | .evalsha => 0x0261
  | .evalRo => 0x0262
  | .evalshaRo => 0x0263
  | .script => 0x0264
  | .fcall => 0x0265
  | .fcallRo => 0x0266
  | .function => 0x0267
  | .cluster => 0x0340
  | .readonly => 0x0341
  | .readwrite => 0x0342
  | .asking => 0x0343
  | .dbsize => 0x03C0
  | .flushdb => 0x03C1
  | .flushall => 0x03C2
  | .save => 0x03C3
  | .bgsave => 0x03C4
  | .bgrewriteaof => 0x03C5
  | .lastsave => 0x03C6
  | .shutdown => 0x03C7
  | .info => 0x03C8
  | .config => 0x03C9
  | .command => 0x03CA
  | .time => 0x03CB
  | .role => 0x03CC
  | .replicaof => 0x03CD
  | .slaveof => 0x03CE
  | .monitor => 0x03CF
  | .debug => 0x03D0
  | .sync => 0x03D1
  | .psync => 0x03D2
  | .replconf => 0x03D3
  | .slowlog => 0x03D4
  | .latency => 0x03D5
  | .memory => 0x03D6
  | .moduleCmd => 0x03D7
  | .acl => 0x03D8
  | .failover => 0x03D9
  | .swapdb => 0x03DA
  | .lolwut => 0x03DB
  | .restoreAsking => 0x03DC
  | .commandlog => 0x03DD
  | .publish => 0x0200
  | .subscribe => 0x0201
  | .unsubscribe => 0x0202
  | .psubscribe => 0x0203
  | .punsubscribe => 0x0204
  | .pubsub => 0x0205
  | .spublish => 0x0206
  | .ssubscribe => 0x0207
  | .sunsubscribe => 0x0208
  | .module => 0xF000
  | .respPassthrough => 0xFFFF

def opGroups : List (Nat × List Op) := [
  (0x0000, [.get, .set, .append, .decr, .decrby, .getdel, .getex, .getrange, .getset, .incr,
    .incrby, .incrbyfloat, .mget, .mset, .msetnx, .psetex, .setex, .setnx, .setrange, .strlen,
    .substr, .lcs, .delifeq]),
  (0x0040, [.lpush, .rpush, .lpop, .rpop, .llen, .lrange, .lindex, .lset, .lrem, .ltrim, .linsert,
    .lpushx, .rpushx, .rpoplpush, .lmove, .lmpop, .lpos, .blpop, .brpop, .brpoplpush, .blmove,
    .blmpop]),
  (0x0080, [.sadd, .srem, .smembers, .sismember, .scard, .spop, .srandmember, .sinter,
    .sinterstore, .sunion, .sunionstore, .sdiff, .sdiffstore, .smove, .sscan, .sintercard,
    .smismember]),
  (0x00C0, [.zadd, .zrem, .zcard, .zcount, .zincrby, .zrange, .zrangebyscore, .zrangebylex,
    .zrevrange, .zrevrangebyscore, .zrevrangebylex, .zrank, .zrevrank, .zscore, .zmscore,
    .zremrangebyrank, .zremrangebyscore, .zremrangebylex, .zlexcount, .zpopmin, .zpopmax,
    .bzpopmin, .bzpopmax, .zrandmember, .zdiff, .zdiffstore, .zinter, .zinterstore, .zintercard,
    .zunion, .zunionstore, .zscan, .zmpop, .bzmpop, .zrangestore]),
  (0x0100, [.hset, .hget, .hmset, .hmget, .hgetall, .hdel, .hexists, .hincrby, .hincrbyfloat,
    .hkeys, .hvals, .hlen, .hsetnx, .hstrlen, .hscan, .hrandfield, .hexpire, .hexpireat,
    .hexpiretime, .hpexpire, .hpexpireat, .hpexpiretime, .hpttl, .httl, .hpersist, .hgetex,
    .hsetex]),
  (0x0140, [.setbit, .getbit, .bitcount, .bitpos, .bitop, .bitfield, .bitfieldRo]),
  (0x0160, [.pfadd, .pfcount, .pfmerge, .pfdebug, .pfselftest]),
  (0x0180, [.geoadd, .geodist, .geohash, .geopos, .georadius, .georadiusbymember, .georadiusRo,
    .georadiusbymemberRo, .geosearch, .geosearchstore]),
  (0x01C0, [.xadd, .xlen, .xrange, .xrevrange, .xread, .xreadgroup, .xdel, .xtrim, .xack,
    .xpending, .xclaim, .xautoclaim, .xinfo, .xgroup, .xsetid]),
  (0x02C0, [.del, .unlink, .«exists», .expire, .expireat, .expiretime, .pexpire, .pexpireat,
    .pexpiretime, .ttl, .pttl, .persist, .keys, .scan, .randomkey, .rename, .renamenx, .type,
    .dump, .restore, .migrate, .move, .copy, .sort, .sortRo, .touch, .object, .wait, .waitaof]),
  (0x0300, [.ping, .echo, .auth, .select, .quit, .hello, .reset, .client]),
  (0x0240, [.multi, .exec, .discard, .watch, .unwatch]),
  (0x0260, [.eval, .evalsha, .evalRo, .evalshaRo, .script, .fcall, .fcallRo, .function]),
  (0x0340, [.cluster, .readonly, .readwrite, .asking]),
  (0x03C0, [.dbsize, .flushdb, .flushall, .save, .bgsave, .bgrewriteaof, .lastsave, .shutdown,
    .info, .config, .command, .time, .role, .replicaof, .slaveof, .monitor, .debug, .sync, .psync,
    .replconf, .slowlog, .latency, .memory, .moduleCmd, .acl, .failover, .swapdb, .lolwut,
    .restoreAsking, .commandlog]),
  (0x0200, [.publish, .subscribe, .unsubscribe, .psubscribe, .punsubscribe, .pubsub, .spublish,
    .ssubscribe, .sunsubscribe]),
  (0xF000, [.module]),
  (0xFFFF, [.respPassthrough])]

def Op.ofCode (c : UInt16) : Option Op :=
  opGroups.findSome? fun g => if g.1 ≤ c.toNat then g.2[c.toNat - g.1]? else none

def respbModuleJson : UInt16 := 0x0000

def respbModuleBf : UInt16 := 0x0001

def respbModuleFt : UInt16 := 0x0002

theorem Op.ofCode_code (o : Op) : Op.ofCode o.code = some o := by
  cases o <;> rfl

theorem opGroups_code :
    ∀ g ∈ opGroups, ∀ i (h : i < g.2.length), (g.2.get ⟨i, h⟩).code.toNat = g.1 + i := by
  decide

theorem Op.code_of_ofCode {c : UInt16} {o : Op} (h : Op.ofCode c = some o) : o.code = c := by
  obtain ⟨g, hg, hsome⟩ := List.exists_of_findSome?_eq_some h
  split at hsome
  · obtain ⟨hi, rfl⟩ := List.getElem?_eq_some_iff.mp hsome
    apply UInt16.toNat.inj
    rw [show g.2[c.toNat - g.1] = g.2.get ⟨_, hi⟩ from rfl, opGroups_code g hg _ hi]
    omega
  · cases hsome

theorem Op.ofCode_eq_some_iff {c : UInt16} {o : Op} : Op.ofCode c = some o ↔ o.code = c :=
  ⟨Op.code_of_ofCode, fun h => h ▸ Op.ofCode_code o⟩

end ProtocolBench.Respb
