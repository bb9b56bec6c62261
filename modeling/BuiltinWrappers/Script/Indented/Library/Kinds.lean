/-!
# Kinds of values

Kinds with fixed members, records, and marks on functions and families.
-/

namespace BuiltinWrappers.Script.Indented.Library

/-- Families that leave methods to be defined. -/
def wantedMethods : String := r#"
  |def abstractmethod(function):
  |    function.__isabstractmethod__ = True
  |    return function
  |
  |class abstractproperty(property):
  |    pass
  |
  |def abstractclassmethod(function):
  |    return classmethod(abstractmethod(function))
  |
  |def abstractstaticmethod(function):
  |    return staticmethod(abstractmethod(function))
  |
  |_registered = []
  |
  |class ABCMeta(type):
  |    def register(cls, subclass):
  |        _registered.append((cls, subclass))
  |        return subclass
  |    def __instancecheck__(cls, instance):
  |        return ABCMeta.__subclasscheck__(cls, type(instance))
  |    def __subclasscheck__(cls, kind):
  |        if cls in kind.__mro__:
  |            return True
  |        hook = getattr(cls, '__subclasshook__', None)
  |        if hook is not None:
  |            told = hook(kind)
  |            if told is not NotImplemented:
  |                return told
  |        for wider, narrower in _registered:
  |            if narrower in kind.__mro__ and cls in wider.__mro__:
  |                return True
  |        return False
  |
  |class ABC(metaclass=ABCMeta):
  |    pass
  |
  |def get_cache_token():
  |    return 0
  |
  |def update_abstractmethods(cls):
  |    return cls"#

/-- Names of kinds. -/
def kinds : String := r#"
  |import sys
  |def _f(): pass
  |FunctionType = LambdaType = type(_f)
  |def _g():
  |    yield 1
  |GeneratorType = type(_g())
  |BuiltinFunctionType = BuiltinMethodType = type(len)
  |class _C:
  |    def _m(self): pass
  |MethodType = type(_C()._m)
  |ModuleType = type(sys)
  |NoneType = type(None)
  |NotImplementedType = type(NotImplemented)
  |EllipsisType = type(Ellipsis)
  |CodeType = str
  |TracebackType = FrameType = object
  |CoroutineType = AsyncGeneratorType = GeneratorType
  |MappingProxyType = dict
  |GenericAlias = type(list[int])
  |UnionType = type(int | str)
  |CellType = object
  |
  |class SimpleNamespace:
  |    def __init__(self, mapping=(), /, **kwargs):
  |        for name, value in dict(mapping, **kwargs).items():
  |            setattr(self, name, value)
  |    def __repr__(self):
  |        pairs = ['%s=%r' % pair for pair in self.__dict__.items()]
  |        return ('namespace' if type(self) is SimpleNamespace else type(self).__name__) \
  |            + '(' + ', '.join(pairs) + ')'
  |    def __eq__(self, other):
  |        if isinstance(other, SimpleNamespace):
  |            return self.__dict__ == other.__dict__
  |        return NotImplemented
  |
  |def new_class(name, bases=(), kwds=None, exec_body=None):
  |    names = dict()
  |    if exec_body is not None:
  |        exec_body(names)
  |    return type(name, tuple(bases), names)
  |
  |class DynamicClassAttribute(property):
  |    pass
  |
  |def coroutine(function):
  |    return function"#

/-- What hints about kinds are written with. -/
def hints : String := r#"
  |from collections.abc import (Awaitable, Callable, Collection, Container, Generator, Hashable,
  |                             Iterable, Iterator, Mapping, MutableMapping, MutableSequence,
  |                             MutableSet, Reversible, Sequence, Sized, KeysView, ValuesView,
  |                             ItemsView, Coroutine, AsyncIterable, AsyncIterator,
  |                             AsyncGenerator, Set as AbstractSet)
  |import collections as _collections
  |TYPE_CHECKING = False
  |
  |class _Form:
  |    def __init__(self, name):
  |        self._name = name
  |        self.__name__ = name
  |    def __getitem__(self, item):
  |        return self
  |    def __call__(self, *args, **kwargs):
  |        raise TypeError('Cannot instantiate ' + repr(self))
  |    def __or__(self, other):
  |        return self
  |    __ror__ = __or__
  |    def __repr__(self):
  |        return 'typing.' + self._name
  |
  |Any = _Form('Any')
  |Union = _Form('Union')
  |Optional = _Form('Optional')
  |Literal = _Form('Literal')
  |Final = _Form('Final')
  |ClassVar = _Form('ClassVar')
  |NoReturn = _Form('NoReturn')
  |Never = _Form('Never')
  |Self = _Form('Self')
  |Annotated = _Form('Annotated')
  |Concatenate = _Form('Concatenate')
  |TypeAlias = _Form('TypeAlias')
  |TypeGuard = _Form('TypeGuard')
  |Unpack = _Form('Unpack')
  |Required = _Form('Required')
  |NotRequired = _Form('NotRequired')
  |LiteralString = _Form('LiteralString')
  |AnyStr = _Form('AnyStr')
  |Text = str
  |List = list
  |Dict = dict
  |Tuple = tuple
  |Set = set
  |FrozenSet = frozenset
  |Type = type
  |Deque = _collections.deque
  |DefaultDict = _collections.defaultdict
  |OrderedDict = _collections.OrderedDict
  |Counter = _collections.Counter
  |ChainMap = _collections.ChainMap
  |IO = TextIO = BinaryIO = _Form('IO')
  |Pattern = _Form('Pattern')
  |Match = _Form('Match')
  |SupportsInt = _Form('SupportsInt')
  |SupportsFloat = _Form('SupportsFloat')
  |SupportsIndex = _Form('SupportsIndex')
  |SupportsAbs = _Form('SupportsAbs')
  |SupportsBytes = _Form('SupportsBytes')
  |ContextManager = _Form('ContextManager')
  |
  |class Generic:
  |    def __class_getitem__(cls, item):
  |        return cls
  |
  |class Protocol:
  |    def __class_getitem__(cls, item):
  |        return cls
  |
  |def TypeVar(name, *constraints, bound=None, covariant=False, contravariant=False, **rest):
  |    return _Form(name)
  |
  |def ParamSpec(name, **rest):
  |    found = _Form(name)
  |    found.args = found.kwargs = found
  |    return found
  |
  |TypeVarTuple = ParamSpec
  |
  |def NewType(name, tp):
  |    def make(value):
  |        return value
  |    make.__name__ = name
  |    make.__supertype__ = tp
  |    return make
  |
  |def cast(typ, val):
  |    return val
  |
  |def overload(func):
  |    return func
  |
  |def final(func):
  |    return func
  |
  |def override(func):
  |    return func
  |
  |def no_type_check(func):
  |    return func
  |
  |def runtime_checkable(cls):
  |    return cls
  |
  |def get_type_hints(obj, globalns=None, localns=None, include_extras=False):
  |    found = getattr(obj, '__annotations__', None)
  |    return dict(found) if found else dict()
  |
  |def get_origin(tp):
  |    return getattr(tp, '__origin__', None)
  |
  |def get_args(tp):
  |    return getattr(tp, '__args__', ())
  |
  |def assert_never(arg):
  |    raise AssertionError('Expected code to be unreachable, but got: %r' % (arg,))
  |
  |def assert_type(val, typ):
  |    return val
  |
  |def reveal_type(obj):
  |    return obj
  |
  |def NamedTuple(typename, fields=None, **kwargs):
  |    pairs = list(fields or kwargs.items())
  |    return _collections.namedtuple(typename, [name for name, kind in pairs])
  |
  |class _NamedTupleMeta(type):
  |    def __new__(metacls, name, bases, namespace):
  |        hints = namespace.get('__annotations__', dict())
  |        names = list(hints)
  |        defaults = [namespace[n] for n in names if n in namespace]
  |        made = _collections.namedtuple(name, names, defaults=defaults)
  |        for key, value in namespace.items():
  |            if key not in names and key not in ('__module__', '__qualname__'):
  |                setattr(made, key, value)
  |        return made
  |
  |_NamedTupleBase = type.__new__(_NamedTupleMeta, 'NamedTuple', (), dict())
  |NamedTuple.__mro_entries__ = lambda bases: (_NamedTupleBase,)
  |
  |def TypedDict(typename, fields=None, *, total=True, **kwargs):
  |    return type(typename, (dict,), dict())
  |
  |class _TypedDictMeta(type):
  |    def __new__(metacls, name, bases, namespace, total=True):
  |        return type(name, (dict,), dict(__annotations__=namespace.get('__annotations__')))
  |
  |_TypedDictBase = type.__new__(_TypedDictMeta, 'TypedDict', (), dict())
  |TypedDict.__mro_entries__ = lambda bases: (_TypedDictBase,)"#

/-- Kinds whose values are listed. -/
def choices : String := r#"
  |class auto:
  |    def __init__(self):
  |        self.value = None
  |
  |class nonmember:
  |    def __init__(self, value):
  |        self.value = value
  |
  |class member:
  |    def __init__(self, value):
  |        self.value = value
  |
  |class _Property(property):
  |    pass
  |
  |def _isdescriptor(value):
  |    return (callable(value) and not isinstance(value, (type, member))
  |            or isinstance(value, (property, staticmethod, classmethod))
  |            or hasattr(type(value), '__get__'))
  |
  |def _isprivate(name):
  |    return name.startswith('_')
  |
  |class EnumMeta(type):
  |    def __new__(metacls, name, bases, namespace, **kwds):
  |        ready = '_ready_' in namespace
  |        members = dict()
  |        rest = dict()
  |        ignored = namespace.get('_ignore_', [])
  |        if isinstance(ignored, str):
  |            ignored = ignored.replace(',', ' ').split()
  |        for key, value in namespace.items():
  |            if ready or _isprivate(key) or _isdescriptor(value) or key in ignored:
  |                rest[key] = value
  |            elif isinstance(value, nonmember):
  |                rest[key] = value.value
  |            else:
  |                members[key] = value.value if isinstance(value, member) else value
  |        parents = tuple(base for base in bases if getattr(base, '_member_map_', None))
  |        for base in parents:
  |            raise TypeError('%s cannot extend %r' % (name, base))
  |        rest['_member_map_'] = dict()
  |        rest['_value2member_map_'] = dict()
  |        rest['_member_names_'] = []
  |        cls = type.__new__(metacls, name, bases, rest)
  |        values = []
  |        for key, value in members.items():
  |            if isinstance(value, auto):
  |                value = cls._generate_next_value_(key, 1, len(values), values[:])
  |            elif isinstance(value, tuple) and any(isinstance(v, auto) for v in value):
  |                value = tuple(cls._generate_next_value_(key, 1, len(values), values[:])
  |                              if isinstance(v, auto) else v for v in value)
  |            values.append(value)
  |            cls._add_(key, value)
  |        return cls
  |    def _add_(cls, name, value):
  |        kind = cls._member_type_()
  |        args = value if isinstance(value, tuple) else (value,)
  |        if '__new__' in cls.__dict__:
  |            found = cls.__dict__['__new__'](cls, *args)
  |            if not hasattr(found, '_value_'):
  |                found._value_ = value
  |        elif kind is object:
  |            found = object.__new__(cls)
  |            found._value_ = value
  |        else:
  |            found = kind.__new__(cls, *(args if kind is not tuple else (args,)))
  |            found._value_ = kind(*(args if kind is not tuple else (args,)))
  |        for other in cls._member_map_.values():
  |            if other._value_ == found._value_:
  |                found = other
  |                break
  |        else:
  |            found._name_ = name
  |            found._sort_order_ = len(cls._member_names_)
  |            cls._member_names_.append(name)
  |            function = getattr(cls, '__init__', None)
  |            if function is not None and function is not object.__init__ \
  |                    and type(function) is type(lambda: 0):
  |                function(found, *args)
  |        cls._member_map_[name] = found
  |        type.__setattr__(cls, name, found)
  |        try:
  |            cls._value2member_map_.setdefault(found._value_, found)
  |        except TypeError:
  |            pass
  |    def _member_type_(cls):
  |        for base in cls.__mro__[1:]:
  |            if base is not object and not isinstance(base, EnumMeta):
  |                return base
  |        return object
  |    def __call__(cls, value=None, names=None, *args, **kwargs):
  |        if names is not None or not cls._member_map_ and '_ready_' not in cls.__dict__:
  |            if names is not None:
  |                return cls._create_(value, names, kwargs.get('start', 1))
  |        if isinstance(value, cls):
  |            return value
  |        try:
  |            if value in cls._value2member_map_:
  |                return cls._value2member_map_[value]
  |        except TypeError:
  |            pass
  |        for found in cls._member_map_.values():
  |            if found._value_ == value:
  |                return found
  |        found = cls._missing_(value)
  |        if found is None:
  |            raise ValueError('%r is not a valid %s' % (value, cls.__qualname__))
  |        return found
  |    def _create_(cls, name, names, start):
  |        if isinstance(names, str):
  |            names = names.replace(',', ' ').split()
  |        space = dict()
  |        if hasattr(names, 'items'):
  |            names = names.items()
  |        for i, item in enumerate(names):
  |            if isinstance(item, str):
  |                space[item] = i + start
  |            else:
  |                space[item[0]] = item[1]
  |        return EnumMeta(name, (cls,), space)
  |    def __iter__(cls):
  |        return (cls._member_map_[name] for name in cls._member_names_)
  |    def __reversed__(cls):
  |        return (cls._member_map_[name] for name in reversed(cls._member_names_))
  |    def __len__(cls):
  |        return len(cls._member_names_)
  |    def __bool__(cls):
  |        return True
  |    def __contains__(cls, value):
  |        if isinstance(value, cls):
  |            return True
  |        return value in cls._value2member_map_
  |    def __getitem__(cls, name):
  |        return cls._member_map_[name]
  |    @property
  |    def __members__(cls):
  |        return dict(cls._member_map_)
  |    def __repr__(cls):
  |        return "<enum '%s'>" % cls.__name__
  |    def __setattr__(cls, name, value):
  |        if name in getattr(cls, '_member_map_', ()):
  |            raise AttributeError('cannot reassign member %r' % name)
  |        type.__setattr__(cls, name, value)
  |
  |EnumType = EnumMeta
  |
  |class Enum(metaclass=EnumMeta):
  |    _ready_ = True
  |    @property
  |    def name(self):
  |        return self._name_
  |    @property
  |    def value(self):
  |        return self._value_
  |    @staticmethod
  |    def _generate_next_value_(name, start, count, last_values):
  |        if not last_values:
  |            return start
  |        return max(last_values) + 1
  |    @classmethod
  |    def _missing_(cls, value):
  |        return None
  |    def __repr__(self):
  |        return '<%s.%s: %r>' % (type(self).__name__, self._name_, self._value_)
  |    def __str__(self):
  |        return '%s.%s' % (type(self).__name__, self._name_)
  |    def __format__(self, spec):
  |        return format(str(self), spec)
  |    def __hash__(self):
  |        return hash(self._name_)
  |    def __reduce__(self):
  |        return (type(self), (self._value_,))
  |    def __copy__(self):
  |        return self
  |    def __deepcopy__(self, memo):
  |        return self
  |
  |class ReprEnum(Enum):
  |    _ready_ = True
  |
  |class IntEnum(int, ReprEnum):
  |    _ready_ = True
  |    def __eq__(self, other):
  |        return int.__eq__(self, other)
  |    def __hash__(self):
  |        return int.__hash__(self)
  |    def __str__(self):
  |        return int.__repr__(self)
  |    def __repr__(self):
  |        return '<%s.%s: %r>' % (type(self).__name__, self._name_, self._value_)
  |    def __format__(self, spec):
  |        return format(int(self), spec)
  |
  |class StrEnum(str, ReprEnum):
  |    _ready_ = True
  |    @staticmethod
  |    def _generate_next_value_(name, start, count, last_values):
  |        return name.lower()
  |    def __eq__(self, other):
  |        return str.__eq__(self, other)
  |    def __hash__(self):
  |        return str.__hash__(self)
  |    def __str__(self):
  |        return self._value_
  |    def __repr__(self):
  |        return '<%s.%s: %r>' % (type(self).__name__, self._name_, self._value_)
  |    def __format__(self, spec):
  |        return format(self._value_, spec)
  |
  |STRICT, CONFORM, EJECT, KEEP = 'strict', 'conform', 'eject', 'keep'
  |
  |class Flag(Enum):
  |    _ready_ = True
  |    @staticmethod
  |    def _generate_next_value_(name, start, count, last_values):
  |        if not last_values:
  |            return 1
  |        return 1 << max(last_values).bit_length()
  |    @classmethod
  |    def _missing_(cls, value):
  |        if not isinstance(value, int):
  |            return None
  |        if value < 0:
  |            value = sum(m._value_ for m in cls) + 1 + value
  |        return cls._made_(value)
  |    @classmethod
  |    def _made_(cls, value):
  |        for found in cls._member_map_.values():
  |            if found._value_ == value:
  |                return found
  |        if value in cls._value2member_map_:
  |            return cls._value2member_map_[value]
  |        kind = cls._member_type_()
  |        found = object.__new__(cls) if kind is object else kind.__new__(cls, value)
  |        found._value_ = value
  |        parts = [m._name_ for m in cls if m._value_ and m._value_ & value == m._value_]
  |        found._name_ = '|'.join(parts) or None
  |        cls._value2member_map_[value] = found
  |        return found
  |    def __or__(self, other):
  |        return self._made_(self._value_ | _number(other))
  |    def __and__(self, other):
  |        return self._made_(self._value_ & _number(other))
  |    def __xor__(self, other):
  |        return self._made_(self._value_ ^ _number(other))
  |    def __invert__(self):
  |        every = 0
  |        for m in type(self):
  |            every |= m._value_
  |        return self._made_(every & ~self._value_)
  |    __ror__ = __or__
  |    __rand__ = __and__
  |    __rxor__ = __xor__
  |    def __contains__(self, other):
  |        return other._value_ & self._value_ == other._value_
  |    def __bool__(self):
  |        return bool(self._value_)
  |    def __iter__(self):
  |        return (m for m in type(self) if m._value_ & self._value_)
  |    def __len__(self):
  |        return bin(self._value_).count('1')
  |    def __repr__(self):
  |        if self._name_ is None:
  |            return '<%s: %r>' % (type(self).__name__, self._value_)
  |        return '<%s.%s: %r>' % (type(self).__name__, self._name_, self._value_)
  |    def __str__(self):
  |        if self._name_ is None:
  |            return '%s(%r)' % (type(self).__name__, self._value_)
  |        return '%s.%s' % (type(self).__name__, self._name_)
  |
  |def _number(value):
  |    return value._value_ if isinstance(value, Flag) else value
  |
  |class IntFlag(int, Flag):
  |    _ready_ = True
  |    def __eq__(self, other):
  |        return int.__eq__(self, other)
  |    def __hash__(self):
  |        return int.__hash__(self)
  |    def __str__(self):
  |        return int.__repr__(self)
  |    def __format__(self, spec):
  |        return format(int(self), spec)
  |
  |FlagBoundary = str
  |
  |def unique(enumeration):
  |    duplicates = [(name, m.name) for name, m in enumeration.__members__.items()
  |                  if name != m.name]
  |    if duplicates:
  |        raise ValueError('duplicate values found in %r: %s' % (
  |            enumeration, ', '.join('%s -> %s' % pair for pair in duplicates)))
  |    return enumeration
  |
  |def global_enum(cls):
  |    return cls
  |
  |property = _Property"#

/-- Families that are made of fields. -/
def fields : String := r#"
  |class _Missing:
  |    def __repr__(self):
  |        return '<dataclasses._MISSING_TYPE object>'
  |
  |MISSING = _Missing()
  |
  |class _KwOnly:
  |    pass
  |
  |KW_ONLY = _KwOnly()
  |
  |class FrozenInstanceError(AttributeError):
  |    pass
  |
  |class Field:
  |    def __init__(self, default, default_factory, init, repr, hash, compare, metadata, kw_only):
  |        self.name = None
  |        self.type = None
  |        self.default = default
  |        self.default_factory = default_factory
  |        self.init = init
  |        self.repr = repr
  |        self.hash = hash
  |        self.compare = compare
  |        self.metadata = dict() if metadata is None else metadata
  |        self.kw_only = kw_only
  |
  |def field(*, default=MISSING, default_factory=MISSING, init=True, repr=True, hash=None,
  |          compare=True, metadata=None, kw_only=MISSING):
  |    if default is not MISSING and default_factory is not MISSING:
  |        raise ValueError('cannot specify both default and default_factory')
  |    return Field(default, default_factory, init, repr, hash, compare, metadata, kw_only)
  |
  |class InitVar:
  |    def __class_getitem__(cls, kind):
  |        return cls
  |
  |def _fields(cls, kw_only):
  |    found = dict()
  |    for base in cls.__mro__[-1:0:-1]:
  |        for f in getattr(base, '__dataclass_fields__', dict()).values():
  |            found[f.name] = f
  |    named = kw_only
  |    for name, kind in cls.__dict__.get('__annotations__', dict()).items():
  |        if kind is KW_ONLY or isinstance(kind, str) and kind.endswith('KW_ONLY'):
  |            named = True
  |            continue
  |        text = kind if isinstance(kind, str) else getattr(kind, '__name__', '')
  |        if text == 'ClassVar' or str(text).startswith(('ClassVar', 'typing.ClassVar')):
  |            continue
  |        default = cls.__dict__.get(name, MISSING)
  |        if isinstance(default, Field):
  |            f = default
  |            if f.default is MISSING:
  |                if name in cls.__dict__:
  |                    delattr(cls, name)
  |            else:
  |                setattr(cls, name, f.default)
  |        else:
  |            if isinstance(default, (list, dict, set)):
  |                raise ValueError('mutable default %s for field %s is not allowed: '
  |                                 'use default_factory' % (type(default), name))
  |            f = field(default=default)
  |        f.name = name
  |        f.type = kind
  |        f.passed = kind is InitVar
  |        if f.kw_only is MISSING:
  |            f.kw_only = named
  |        found[name] = f
  |    return found
  |
  |def _listed(names):
  |    shown = ["'%s'" % name for name in names]
  |    if len(shown) > 2:
  |        return ', '.join(shown[:-1]) + ', and ' + shown[-1]
  |    return ' and '.join(shown)
  |
  |def _init(cls, every, frozen):
  |    places = [f for f in every if f.init and not f.kw_only]
  |    seen = False
  |    for f in places:
  |        if f.default is not MISSING or f.default_factory is not MISSING:
  |            seen = True
  |        elif seen:
  |            raise TypeError('non-default argument %r follows default argument' % f.name)
  |    title = cls.__qualname__ + '.__init__()'
  |    def __init__(self, /, *args, **kwargs):
  |        if len(args) > len(places):
  |            least = sum(1 for f in places
  |                        if f.default is MISSING and f.default_factory is MISSING)
  |            wanted = '%d' % (len(places) + 1)
  |            if least != len(places):
  |                wanted = 'from %d to %d' % (least + 1, len(places) + 1)
  |            raise TypeError('%s takes %s positional argument%s but %d were given' % (
  |                title, wanted, 's' if places else '', len(args) + 1))
  |        given = dict()
  |        for f, value in zip(places, args):
  |            given[f.name] = value
  |        names = [f.name for f in every if f.init]
  |        for name, value in kwargs.items():
  |            if name in given:
  |                raise TypeError("%s got multiple values for argument '%s'" % (title, name))
  |            if name not in names:
  |                raise TypeError("%s got an unexpected keyword argument '%s'" % (title, name))
  |            given[name] = value
  |        def lacks(f):
  |            return (f.init and f.name not in given and f.default is MISSING
  |                    and f.default_factory is MISSING)
  |        missing = [f.name for f in places if lacks(f)]
  |        sort = 'positional'
  |        if not missing:
  |            missing = [f.name for f in every if f.kw_only and lacks(f)]
  |            sort = 'keyword-only'
  |        if missing:
  |            raise TypeError('%s missing %d required %s argument%s: %s' % (
  |                title, len(missing), sort, 's' if len(missing) > 1 else '', _listed(missing)))
  |        passed = []
  |        for f in every:
  |            if f.init and f.name in given:
  |                value = given[f.name]
  |            elif f.default_factory is not MISSING:
  |                value = f.default_factory()
  |            elif f.default is not MISSING:
  |                value = f.default
  |            else:
  |                continue
  |            if f.passed:
  |                passed.append(value)
  |            elif frozen:
  |                object.__setattr__(self, f.name, value)
  |            else:
  |                setattr(self, f.name, value)
  |        if hasattr(type(self), '__post_init__'):
  |            self.__post_init__(*passed)
  |    return __init__
  |
  |def _process(cls, init, repr_, eq, order, unsafe_hash, frozen, match_args, kw_only, slots):
  |    found = _fields(cls, kw_only)
  |    cls.__dataclass_fields__ = found
  |    every = list(found.values())
  |    kept = [f for f in every if not f.passed]
  |    own = cls.__dict__
  |    if init and '__init__' not in own:
  |        cls.__init__ = _init(cls, every, frozen)
  |    if repr_ and '__repr__' not in own:
  |        def __repr__(self):
  |            parts = ['%s=%r' % (f.name, getattr(self, f.name)) for f in kept if f.repr]
  |            return type(self).__qualname__ + '(' + ', '.join(parts) + ')'
  |        cls.__repr__ = __repr__
  |    def key(self):
  |        return tuple(getattr(self, f.name) for f in kept if f.compare)
  |    if eq and '__eq__' not in own:
  |        def __eq__(self, other):
  |            if type(other) is type(self):
  |                return key(self) == key(other)
  |            return NotImplemented
  |        cls.__eq__ = __eq__
  |    if order:
  |        def compare(function):
  |            def method(self, other):
  |                if type(other) is type(self):
  |                    return function(key(self), key(other))
  |                return NotImplemented
  |            return method
  |        cls.__lt__ = compare(lambda a, b: a < b)
  |        cls.__le__ = compare(lambda a, b: a <= b)
  |        cls.__gt__ = compare(lambda a, b: a > b)
  |        cls.__ge__ = compare(lambda a, b: a >= b)
  |    if frozen:
  |        def __setattr__(self, name, value):
  |            raise FrozenInstanceError('cannot assign to field %r' % name)
  |        def __delattr__(self, name):
  |            raise FrozenInstanceError('cannot delete field %r' % name)
  |        cls.__setattr__ = __setattr__
  |        cls.__delattr__ = __delattr__
  |    if unsafe_hash or eq and frozen:
  |        def __hash__(self):
  |            return hash(tuple(getattr(self, f.name) for f in kept
  |                              if (f.compare if f.hash is None else f.hash)))
  |        cls.__hash__ = __hash__
  |    elif eq and '__hash__' not in own:
  |        def __hash__(self):
  |            raise TypeError("unhashable type: '%s'" % type(self).__name__)
  |        cls.__hash__ = __hash__
  |    if match_args:
  |        cls.__match_args__ = tuple(f.name for f in every if f.init and not f.kw_only)
  |    return cls
  |
  |def dataclass(cls=None, /, *, init=True, repr=True, eq=True, order=False, unsafe_hash=False,
  |              frozen=False, match_args=True, kw_only=False, slots=False, weakref_slot=False):
  |    def wrap(cls):
  |        return _process(cls, init, repr, eq, order, unsafe_hash, frozen, match_args, kw_only,
  |                        slots)
  |    return wrap if cls is None else wrap(cls)
  |
  |def fields(class_or_instance):
  |    try:
  |        found = class_or_instance.__dataclass_fields__
  |    except AttributeError:
  |        raise TypeError('must be called with a dataclass type or instance') from None
  |    return tuple(f for f in found.values() if not f.passed)
  |
  |def is_dataclass(obj):
  |    return hasattr(obj, '__dataclass_fields__')
  |
  |def _inner(value, dict_factory):
  |    if is_dataclass(value) and not isinstance(value, type):
  |        return dict_factory([(f.name, _inner(getattr(value, f.name), dict_factory))
  |                             for f in fields(value)])
  |    if isinstance(value, tuple) and hasattr(value, '_fields'):
  |        return type(value)(*[_inner(v, dict_factory) for v in value])
  |    if isinstance(value, (list, tuple)):
  |        return type(value)(_inner(v, dict_factory) for v in value)
  |    if isinstance(value, dict):
  |        return dict((_inner(k, dict_factory), _inner(v, dict_factory))
  |                    for k, v in value.items())
  |    return value
  |
  |def asdict(obj, *, dict_factory=dict):
  |    if not is_dataclass(obj) or isinstance(obj, type):
  |        raise TypeError('asdict() should be called on dataclass instances')
  |    return _inner(obj, dict_factory)
  |
  |def astuple(obj, *, tuple_factory=tuple):
  |    def inner(value):
  |        if is_dataclass(value) and not isinstance(value, type):
  |            return tuple_factory([inner(getattr(value, f.name)) for f in fields(value)])
  |        if isinstance(value, (list, tuple)):
  |            return type(value)(inner(v) for v in value)
  |        if isinstance(value, dict):
  |            return dict((inner(k), inner(v)) for k, v in value.items())
  |        return value
  |    return inner(obj)
  |
  |def replace(obj, /, **changes):
  |    for f in obj.__dataclass_fields__.values():
  |        if not f.init:
  |            if f.name in changes:
  |                raise ValueError('field %s is declared with init=False, it cannot be '
  |                                 'specified with replace()' % f.name)
  |            continue
  |        if f.name not in changes and not f.passed:
  |            changes[f.name] = getattr(obj, f.name)
  |    return type(obj)(**changes)
  |
  |def make_dataclass(cls_name, fields, *, bases=(), namespace=None, **kwargs):
  |    names = dict(namespace or ())
  |    hints = dict()
  |    for item in fields:
  |        if isinstance(item, str):
  |            hints[item] = object
  |        else:
  |            hints[item[0]] = item[1]
  |            if len(item) == 3:
  |                names[item[0]] = item[2]
  |    names['__annotations__'] = hints
  |    return dataclass(type(cls_name, tuple(bases), names), **kwargs)"#

/-- What surrounds a body. -/
def contexts : String := r#"
  |import sys
  |import os
  |from functools import wraps
  |from abc import ABC, abstractmethod
  |
  |class ContextDecorator:
  |    def _recreate_cm(self):
  |        return self
  |    def __call__(self, func):
  |        @wraps(func)
  |        def inner(*args, **kwds):
  |            with self._recreate_cm():
  |                return func(*args, **kwds)
  |        return inner
  |
  |class AbstractContextManager(ABC):
  |    def __enter__(self):
  |        return self
  |    def __exit__(self, kind, value, trace):
  |        return None
  |
  |class _GeneratorContextManager(ContextDecorator):
  |    def __init__(self, func, args, kwds):
  |        self.gen = func(*args, **kwds)
  |        self.func, self.args, self.kwds = func, args, kwds
  |        self.__doc__ = func.__doc__
  |    def _recreate_cm(self):
  |        return type(self)(self.func, self.args, self.kwds)
  |    def __enter__(self):
  |        try:
  |            return next(self.gen)
  |        except StopIteration:
  |            raise RuntimeError("generator didn't yield") from None
  |    def __exit__(self, kind, value, trace):
  |        if kind is None:
  |            try:
  |                next(self.gen)
  |            except StopIteration:
  |                return False
  |            else:
  |                raise RuntimeError("generator didn't stop")
  |        if value is None:
  |            value = kind()
  |        try:
  |            self.gen.throw(value)
  |        except StopIteration as error:
  |            return error is not value
  |        except RuntimeError as error:
  |            if error is value:
  |                return False
  |            if isinstance(value, StopIteration) and error.__cause__ is value:
  |                return False
  |            raise
  |        except BaseException as error:
  |            if error is not value:
  |                raise
  |            return False
  |        raise RuntimeError("generator didn't stop after throw()")
  |
  |def contextmanager(func):
  |    @wraps(func)
  |    def helper(*args, **kwds):
  |        return _GeneratorContextManager(func, args, kwds)
  |    return helper
  |
  |class closing(AbstractContextManager):
  |    def __init__(self, thing):
  |        self.thing = thing
  |    def __enter__(self):
  |        return self.thing
  |    def __exit__(self, *info):
  |        self.thing.close()
  |
  |class _RedirectStream(AbstractContextManager):
  |    _stream = None
  |    def __init__(self, new_target):
  |        self._new_target = new_target
  |        self._old_targets = []
  |    def __enter__(self):
  |        self._old_targets.append(getattr(sys, self._stream))
  |        setattr(sys, self._stream, self._new_target)
  |        return self._new_target
  |    def __exit__(self, kind, value, trace):
  |        setattr(sys, self._stream, self._old_targets.pop())
  |
  |class redirect_stdout(_RedirectStream):
  |    _stream = 'stdout'
  |
  |class redirect_stderr(_RedirectStream):
  |    _stream = 'stderr'
  |
  |class suppress(AbstractContextManager):
  |    def __init__(self, *exceptions):
  |        self._exceptions = exceptions
  |    def __enter__(self):
  |        pass
  |    def __exit__(self, kind, value, trace):
  |        return kind is not None and issubclass(kind, self._exceptions)
  |
  |class nullcontext(AbstractContextManager):
  |    def __init__(self, enter_result=None):
  |        self.enter_result = enter_result
  |    def __enter__(self):
  |        return self.enter_result
  |    def __exit__(self, *excinfo):
  |        pass
  |
  |class chdir(AbstractContextManager):
  |    def __init__(self, path):
  |        self.path = path
  |        self._old_cwd = []
  |    def __enter__(self):
  |        self._old_cwd.append(os.getcwd())
  |        os.chdir(self.path)
  |    def __exit__(self, *excinfo):
  |        os.chdir(self._old_cwd.pop())
  |
  |class ExitStack:
  |    def __init__(self):
  |        self._callbacks = []
  |    def pop_all(self):
  |        found = type(self)()
  |        found._callbacks = self._callbacks
  |        self._callbacks = []
  |        return found
  |    def push(self, exit):
  |        cls = type(exit)
  |        if hasattr(cls, '__exit__'):
  |            self._callbacks.append(lambda *info: cls.__exit__(exit, *info))
  |        else:
  |            self._callbacks.append(exit)
  |        return exit
  |    def enter_context(self, cm):
  |        cls = type(cm)
  |        if not hasattr(cls, '__enter__'):
  |            raise TypeError("'%s' object does not support the context manager protocol"
  |                            % cls.__name__)
  |        result = cm.__enter__()
  |        self._callbacks.append(lambda *info: cm.__exit__(*info))
  |        return result
  |    def callback(self, callback, /, *args, **kwds):
  |        def run(*info):
  |            callback(*args, **kwds)
  |        self._callbacks.append(run)
  |        return callback
  |    def __enter__(self):
  |        return self
  |    def __exit__(self, *info):
  |        received = info[1] is not None
  |        pending = False
  |        suppressed = False
  |        while self._callbacks:
  |            callback = self._callbacks.pop()
  |            try:
  |                if callback(*info):
  |                    suppressed = True
  |                    pending = False
  |                    info = (None, None, None)
  |            except BaseException as error:
  |                info = (type(error), error, None)
  |                pending = True
  |        if pending:
  |            raise info[1]
  |        return received and suppressed
  |    def close(self):
  |        self.__exit__(None, None, None)"#

def keywords : String := r#"
  |kwlist = ['False', 'None', 'True', 'and', 'as', 'assert', 'async', 'await', 'break', 'class',
  |          'continue', 'def', 'del', 'elif', 'else', 'except', 'finally', 'for', 'from', 'global',
  |          'if', 'import', 'in', 'is', 'lambda', 'nonlocal', 'not', 'or', 'pass', 'raise',
  |          'return', 'try', 'while', 'with', 'yield']
  |softkwlist = ['_', 'case', 'match', 'type']
  |iskeyword = frozenset(kwlist).__contains__
  |issoftkeyword = frozenset(softkwlist).__contains__"#

end BuiltinWrappers.Script.Indented.Library
